import StorageCompat.Toml.Assignment
import StorageCompat.Toml.Items

/-!
The values of a settings file. Texts, numbers, dates and times are read as they stand; lists
and inline tables are cut into items, and each item is read in turn.
-/

namespace StorageCompat.Toml

def readItems (read : List Char → Reading (Value × Kind)) :
    (kind : Option Kind) → List (List Char) → Reading (List Value)
  | _, [] => .ok []
  | kind, item :: rest => do
      let item := Text.stripBlanks item
      if item.isEmpty then readItems read kind rest
      else
        let (value, found) ← read item
        if kind.any (· != found) then throw .malformed
        else
          let values ← readItems read (some found) rest
          return value :: values

/-- A value and its kind. Each list or table inside spends one of `fuel`. Only numbers that
stand right behind an equals sign may not be well placed. -/
def readNested : (fuel : Nat) → (wellPlaced : Bool) → List Char → Reading (Value × Kind)
  | 0, _, _ => .error .malformed
  | _ + 1, _, [] => .error .malformed
  | fuel + 1, wellPlaced, first :: rest =>
      let text := first :: rest
      if text = "true".toList then .ok (.bool true, .bool)
      else if text = "false".toList then .ok (.bool false, .bool)
      else if isQuote first then do
        let content ← readQuoted first text
        return (.text content, .text)
      else if first = '[' then do
        let items ← listItems text
        let values ← readItems (readNested fuel true) none items
        return (.list values, .list)
      else if first = '\x7b' then do
        let items ← tableItems text
        let table ← assignAll (readNested fuel) items (.object [])
        return (table, .table)
      else readScalar wellPlaced text
termination_by structural fuel => fuel

/-- A value and its kind. What is inside a list or a table is shorter than that, so the
length of the text is fuel enough. -/
def readValue (wellPlaced : Bool) (text : List Char) : Reading (Value × Kind) :=
  readNested (text.length + 1) wellPlaced text

end StorageCompat.Toml
