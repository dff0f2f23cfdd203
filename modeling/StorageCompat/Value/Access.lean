import StorageCompat.Fault

/-!
Parts of values. Which cause a refusal has depends on how the part was asked for, because an
entry may have to be there or may be absent.
-/

namespace StorageCompat.Value

def entry (name : String) : Value → Except Fault Value
  | .object entries =>
      match entries.lookup name with
      | some value => .ok value
      | none => .error (.missingEntry name)
  | _ => .error (.unsuited .entry)

def entry? (name : String) : Value → Except Fault (Option Value)
  | .object entries => .ok (entries.lookup name)
  | _ => .error (.unsuited .optionalEntry)

def entries : Value → Except Fault (List (String × Value))
  | .object entries => .ok entries
  | _ => .error (.unsuited .entries)

/-- What a value is made of: the items of a list, the characters of a text, the names of an
object. -/
def elements : Value → Except Fault (List Value)
  | .list items => .ok items
  | .text characters => .ok (characters.toList.map fun character => .text character.toString)
  | .object entries => .ok (entries.map fun entry => .text entry.1)
  | _ => .error (.unsuited .elements)

end StorageCompat.Value
