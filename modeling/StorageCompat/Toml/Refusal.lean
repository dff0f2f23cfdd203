import StorageCompat.Value.Basic

/-!
What the readers of settings files give: a document, or why there is none. Most often it is not
written as settings are; the other causes arise where a file goes on from a mistake that is none
yet.
-/

namespace StorageCompat.Toml

inductive Refusal where
  /-- The file is not written as settings are. -/
  | malformed
  /-- A character or an item is looked for where none is left. -/
  | absent
  /-- What is no table is used as one. -/
  | noTable
  /-- A text that goes on on the next line belongs to no name. -/
  | noName
  /-- A code point or a fraction of a second is beyond all bounds. -/
  | tooLarge
  /-- A number that has to be shown has too many digits for that. -/
  | unwritable
  /-- Half of a surrogate pair is named, which no text holds. -/
  | unpaired
  deriving DecidableEq, Repr

abbrev Reading := Except Refusal

abbrev Reader := String → Reading Value

def required {α : Type} : Option α → Reading α
  | some value => .ok value
  | none => .error .malformed

def present {α : Type} : Option α → Reading α
  | some value => .ok value
  | none => .error .absent

end StorageCompat.Toml
