import StorageCompat.Layout.Basic
import StorageCompat.SyntaxTree
import StorageCompat.TypeKey

/-!
The layout of a contract, taken from the contract's declaration. Every variable that the
contract declares has a slot, in the order of the declarations, unless it is constant or
immutable; types are listed under their keys.
-/

namespace StorageCompat.Layout

def variableDeclaration : SyntaxTree.NodeKind := .exactly (.text "VariableDeclaration")

/-- A declared variable that has no slot. -/
def isOutsideStorage (declaration : List (String × Value)) : Bool :=
  (SyntaxTree.entryOrNull "constant" declaration).holds ||
    (SyntaxTree.entryOrNull "mutability" declaration).same (.text "immutable")

def typeDescriptions (declaration : List (String × Value)) : Value :=
  let given := SyntaxTree.entryOrNull "typeDescriptions" declaration
  if given.holds then given else .object []

def describedAs (contract : Value) (declaration : List (String × Value))
    (wanted : TypeDescription) : Option Value → Except Fault String
  | some (.text text) => .ok text
  | _ => .error (.undescribed contract (SyntaxTree.entryOrNull "name" declaration) wanted)

def describe (contract : Value) (declaration : List (String × Value)) :
    Except Fault (String × String) := do
  let descriptions := typeDescriptions declaration
  let identifier ← descriptions.entry? TypeDescription.identifier.entry
  let label ← descriptions.entry? TypeDescription.label.entry
  let identifier ← describedAs contract declaration .identifier identifier
  let label ← describedAs contract declaration .label label
  return (identifier, label)

def declared (contract : Value) (declaration : List (String × Value)) :
    Logged (Slot × Value) := do
  let (identifier, label) ← describe contract declaration
  let key ← TypeKey.ofIdentifier identifier
  let name ← (Value.object declaration).entry "name"
  return (⟨contract, name, key⟩, .text label)

def declared? (contract node : Value) : Logged (Option (Slot × Value)) := do
  match node with
  | .object declaration =>
      if SyntaxTree.isNode variableDeclaration node then
        if isOutsideStorage declaration then
          let name := SyntaxTree.entryOrNull "name" declaration
          Logged.note .debug ("跳过非存储变量: " ++ contract.inline ++ "." ++ name.inline)
          return none
        let slot ← declared contract declaration
        return some slot
      else return none
  | _ => return none

def nodes (definition : Value) : Except Fault (List Value) := do
  match ← definition.entry? "nodes" with
  | some nodes => nodes.elements
  | none => return []

def ofContract (definition : Value) : Logged Layout := do
  let contract ← definition.entry "name"
  let nodes ← nodes definition
  let slots ← nodes.filterMapM (declared? contract)
  let layout := ofLabelled slots
  Logged.note .info ("提取存储布局: " ++ contract.inline ++ ", " ++
    toString layout.slots.length ++ " 个变量, " ++
    toString layout.types.entries.length ++ " 种类型")
  return layout

end StorageCompat.Layout
