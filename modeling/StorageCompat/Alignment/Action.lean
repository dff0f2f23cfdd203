import StorageCompat.Value.Shown

/-!
What can happen to the elements of two sequences that are aligned: an element of one side is
paired with one of the other, or stands alone on its side.
-/

namespace StorageCompat.Alignment

inductive Pairing where
  | equal
  | typeChange
  | rename
  | replace
  deriving DecidableEq, Repr

inductive Action where
  | pair (pairing : Pairing)
  | delete
  | append
  deriving DecidableEq, Repr

namespace Action

def all : List Action :=
  [.pair .equal, .pair .typeChange, .pair .rename, .pair .replace, .append, .delete]

def name : Action → String
  | .pair .equal => "equal"
  | .pair .typeChange => "typechange"
  | .pair .rename => "rename"
  | .pair .replace => "replace"
  | .delete => "delete"
  | .append => "append"

def ofName? (name : String) : Option Action :=
  all.find? fun action => action.name == name

theorem ofName?_name (action : Action) : ofName? action.name = some action := by
  cases action with
  | pair pairing => cases pairing <;> decide
  | delete => decide
  | append => decide

def shown (action : Action) : String :=
  "<EditAction." ++ action.name.toUpper ++ ": " ++ Text.quoted action.name ++ ">"

end Action

/-- What a comparison of two elements may answer: an action, or a value that is none. Only
the actions that pair two elements are of use. -/
inductive Answer where
  | action (action : Action)
  | other (value : Value)

namespace Answer

def pairing? : Answer → Option Pairing
  | .action (.pair pairing) => some pairing
  | _ => none

def ofValue : Value → Answer
  | .text name =>
      match Action.ofName? name with
      | some chosen => .action chosen
      | none => .other (.text name)
  | value => .other value

def shown : Answer → String
  | .action chosen => chosen.shown
  | .other value => value.shown

def isWritable : Answer → Bool
  | .action _ => true
  | .other value => value.isWritable

end Answer

end StorageCompat.Alignment
