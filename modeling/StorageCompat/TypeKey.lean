import StorageCompat.Log
import StorageCompat.TypeKey.Escape
import StorageCompat.TypeKey.NodeIds

/-!
The key of a type: its identifier decoded, and without the numbers of declaring nodes. Types
of two compilations have the same key when they have the same structure.
-/

namespace StorageCompat.TypeKey

def keyOf (identifier : List Char) : Except Fault (List Char) := do
  let decoded ← decode identifier
  withoutIds decoded

def ofIdentifier (identifier : String) : Logged String := do
  let key ← keyOf identifier.toList
  let key := String.ofList key
  Logged.note .debug ("类型标识符归一化: " ++ identifier ++ " -> " ++ key)
  return key

def identifierOf : Value → Except Fault String
  | .text identifier => .ok identifier
  | value => .error (.identifierNotText value)

theorem ofIdentifier_result (identifier : String) :
    (ofIdentifier identifier).result = (keyOf identifier.toList).map String.ofList := by
  simp only [ofIdentifier, Logged.result_bind, Logged.result_note, Logged.result_pure]
  cases h : keyOf identifier.toList <;> rfl

end StorageCompat.TypeKey
