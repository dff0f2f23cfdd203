import StorageCompat.Layout.Basic

/-!
Layouts as documents: an object with the list of variables under "storage" and the labels of
their types under "types". Reading takes more than writing produces, for instance further
entries.
-/

namespace StorageCompat.Layout

def toDocument (layout : Layout) : Value :=
  .object
    [("storage", .list (layout.slots.map Slot.toValue)),
      ("types", .object
        (layout.types.entries.map fun entry => (entry.1, .object [("label", entry.2)])))]

def readVariable (item : Value) : Except Fault Draft := do
  let contract ← item.entry "contract"
  let label ← item.entry "label"
  let type ← item.entry "type"
  return ⟨contract, label, type⟩

def readType (entry : String × Value) : Except Fault (String × Value) := do
  let label ← entry.2.entry "label"
  return (entry.1, label)

def readParts (document : Value) : Except Fault (List Draft × Table Value) := do
  let storage ← document.entry "storage"
  let items ← storage.elements
  let drafts ← items.mapM readVariable
  let types ← document.entry "types"
  let entries ← types.entries
  let types ← entries.mapM readType
  return (drafts, .ofList types)

def malformed : Fault → Fault
  | .missingEntry name => .malformedLayout (some name)
  | _ => .malformedLayout none

def ofDocument (document : Value) : Except Fault Layout := do
  let (drafts, types) ← (readParts document).mapError malformed
  build drafts types

end StorageCompat.Layout
