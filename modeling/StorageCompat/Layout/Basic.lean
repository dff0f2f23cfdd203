import StorageCompat.Table
import StorageCompat.Value.Access

/-!
Storage layouts: the variables of a contract in the order of their slots, and the readable
label of every type among them. A layout cannot name a type that it does not list, so each
of its variables has a type label.
-/

namespace StorageCompat

/-- A variable as it is read: its type is whatever value stands there. -/
structure Draft where
  contract : Value
  label : Value
  type : Value
  deriving Inhabited

structure Slot where
  contract : Value
  label : Value
  type : String
  deriving Inhabited

namespace Slot

def toDraft (slot : Slot) : Draft :=
  ⟨slot.contract, slot.label, .text slot.type⟩

def toValue (slot : Slot) : Value :=
  .object [("contract", slot.contract), ("label", slot.label),
    ("type", .text slot.type)]

def shown (slot : Slot) : String :=
  "StorageItem(contract=" ++ slot.contract.shown ++ ", label=" ++ slot.label.shown ++
    ", type=" ++ Text.quoted slot.type ++ ")"

end Slot

structure Layout where
  slots : List Slot
  types : Table Value
  registered : ∀ slot ∈ slots, slot.type ∈ types.names

namespace Draft

def isRegistered (types : Table Value) (draft : Draft) : Bool :=
  match draft.type with
  | .text key => (types.get? key).isSome
  | _ => false

def resolve? (types : Table Value) (draft : Draft) :
    Option { slot : Slot // slot.type ∈ types.names } :=
  match draft.type with
  | .text key =>
      if listed : (types.get? key).isSome then
        some ⟨⟨draft.contract, draft.label, key⟩, (types.get?_isSome key).1 listed⟩
      else none
  | _ => none

/-- Lists and objects cannot be looked up in a table. -/
def isLookable (draft : Draft) : Bool :=
  match draft.type with
  | .list _ | .object _ => false
  | _ => true

end Draft

namespace Layout

def empty : Layout := ⟨[], .empty, by simp⟩

instance : Inhabited Layout := ⟨empty⟩

def ofResolved (types : Table Value)
    (slots : List { slot : Slot // slot.type ∈ types.names }) : Layout where
  slots := slots.map Subtype.val
  types := types
  registered := by
    intro slot member
    obtain ⟨resolved, _, rfl⟩ := List.mem_map.1 member
    exact resolved.property

/-- The layout of the given variables, if all their types are listed. A refusal names the
types that are not, in the order of the variables. -/
def build (drafts : List Draft) (types : Table Value) : Except Fault Layout :=
  if drafts.all Draft.isLookable then
    match drafts.mapM (Draft.resolve? types) with
    | some slots => .ok (ofResolved types slots)
    | none =>
        .error (.unregisteredTypes
          ((drafts.filter fun draft => !draft.isRegistered types).map Draft.type))
  else .error (.unsuited .tableKey)

/-- The layout of variables that each bring the label of their type. Of two labels for one
type the later one stays. -/
def ofLabelled (slots : List (Slot × Value)) : Layout where
  slots := slots.map Prod.fst
  types := .ofList (slots.map fun entry => (entry.1.type, entry.2))
  registered := by
    intro slot member
    obtain ⟨entry, found, rfl⟩ := List.mem_map.1 member
    rw [Table.mem_names_ofList, Entries.names, List.map_map]
    exact List.mem_map.2 ⟨entry, found, rfl⟩

def typeLabel (layout : Layout) (slot : Slot) : Except Fault Value :=
  match layout.types.get? slot.type with
  | some label => .ok label
  | none => .error (.missingEntry slot.type)

theorem typeLabel_eq_ok_iff (layout : Layout) (slot : Slot) (label : Value) :
    layout.typeLabel slot = .ok label ↔ layout.types.get? slot.type = some label := by
  rw [typeLabel]
  cases layout.types.get? slot.type <;> simp

theorem typeLabel_eq_ok (layout : Layout) (slot : Slot)
    (member : slot ∈ layout.slots) :
    ∃ label, layout.typeLabel slot = .ok label := by
  have listed := (layout.types.get?_isSome slot.type).2 (layout.registered slot member)
  obtain ⟨label, found⟩ := Option.isSome_iff_exists.1 listed
  exact ⟨label, by simp [typeLabel, found]⟩

end Layout

end StorageCompat
