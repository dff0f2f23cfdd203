import StorageCompat.Binary64.Shortest
import StorageCompat.Numeral
import StorageCompat.Text.Quoted
import StorageCompat.Value.Basic

/-!
The form in which values stand in messages. Text is quoted where a value is shown as such,
and bare where it is part of a sentence; inside lists and objects it is always quoted.
-/

namespace StorageCompat.Value

def shownFloats : Binary64.Spelling := ⟨"nan", "inf", "-inf"⟩

mutual

def shown : Value → String
  | .null => "None"
  | .bool true => "True"
  | .bool false => "False"
  | .int value => toString value
  | .float value => value.toText shownFloats
  | .text value => Text.quoted value
  | .list items => "[" ++ ", ".intercalate (shownItems items) ++ "]"
  | .object entries => "\x7b" ++ ", ".intercalate (shownEntries entries) ++ "\x7d"
  | .moment written => written
termination_by structural value => value

def shownItems : List Value → List String
  | [] => []
  | value :: rest => value.shown :: shownItems rest
termination_by structural items => items

def shownEntries : List (String × Value) → List String
  | [] => []
  | (name, value) :: rest => (Text.quoted name ++ ": " ++ value.shown) :: shownEntries rest
termination_by structural entries => entries

end

mutual

def isWritable : Value → Bool
  | .int value => Numeral.isWritable value.natAbs
  | .list items => areWritable items
  | .object entries => entriesAreWritable entries
  | _ => true
termination_by structural value => value

def areWritable : List Value → Bool
  | [] => true
  | value :: rest => value.isWritable && areWritable rest
termination_by structural items => items

def entriesAreWritable : List (String × Value) → Bool
  | [] => true
  | (_, value) :: rest => value.isWritable && entriesAreWritable rest
termination_by structural entries => entries

end

/-- A value inside a sentence: text stands bare. -/
def inline : Value → String
  | .text value => value
  | value => value.shown

end StorageCompat.Value
