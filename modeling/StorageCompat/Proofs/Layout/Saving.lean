import StorageCompat.Proofs.Json.RoundTrip
import StorageCompat.Proofs.Layout.Construction

/-!
Saved layouts. A layout is written as a document part by part, and reading the document gives each
part again: the variables in their order, and the types with their labels in theirs. JSON keeps the
document if it keeps what the layout has for contracts and labels.
-/

open StorageCompat.Json (Storable)

namespace StorageCompat.Layout

theorem readVariable_toValue (slot : Slot) : readVariable slot.toValue = .ok slot.toDraft := rfl

theorem readVariable_slots (slots : List Slot) :
    (slots.map Slot.toValue).mapM readVariable = .ok (slots.map Slot.toDraft) := by
  rw [mapM_eq_ok_iff, List.forall₂_map_left_iff, List.forall₂_map_right_iff, List.forall₂_same]
  exact fun slot _ => readVariable_toValue slot

theorem readType_labelled (name : String) (label : Value) :
    readType (name, .object [("label", label)]) = .ok (name, label) := rfl

theorem readType_labels (entries : List (String × Value)) :
    (entries.map fun entry => (entry.1, Value.object [("label", entry.2)])).mapM readType =
      .ok entries := by
  rw [mapM_eq_ok_iff, List.forall₂_map_left_iff, List.forall₂_same]
  exact fun entry _ => readType_labelled entry.1 entry.2

theorem readParts_toDocument (layout : Layout) :
    readParts layout.toDocument = .ok (layout.slots.map Slot.toDraft, layout.types) := by
  have storage : layout.toDocument.entry "storage" = .ok (.list (layout.slots.map Slot.toValue)) :=
    rfl
  have types : layout.toDocument.entry "types" = .ok (.object
      (layout.types.entries.map fun entry => (entry.1, .object [("label", entry.2)]))) := rfl
  simp only [readParts, bind_eq_ok_iff]
  refine ⟨_, storage, _, rfl, _, readVariable_slots _, _, types, _, rfl, _, readType_labels _, ?_⟩
  rw [Table.ofList_entries]
  rfl

theorem ofDocument_toDocument (layout : Layout) : ofDocument layout.toDocument = .ok layout :=
  (ofDocument_eq_ok_iff _ _).2 (readParts_toDocument layout)

theorem toDocument_injective : Function.Injective toDocument := by
  intro first second same
  have read := ofDocument_toDocument first
  rw [same, ofDocument_toDocument] at read
  exact (Except.ok.inj read).symm

theorem storable_slot {slot : Slot} (contract : Storable slot.contract)
    (label : Storable slot.label) : Storable slot.toValue := by
  have distinct : ["contract", "label", "type"].Nodup := by decide
  refine .object distinct ?_
  intro entry member
  simp only [List.mem_cons, List.not_mem_nil, or_false] at member
  obtain rfl | rfl | rfl := member
  · exact contract
  · exact label
  · exact .text slot.type

theorem storable_label {label : Value} (storable : Storable label) :
    Storable (.object [("label", label)]) := by
  have distinct : ["label"].Nodup := by decide
  refine .object distinct ?_
  intro entry member
  obtain rfl := List.mem_singleton.1 member
  exact storable

/-- JSON keeps the document of a layout if it keeps the names of the contracts, the labels of the
variables and those of the types. -/
theorem storable_toDocument {layout : Layout}
    (slots : ∀ slot ∈ layout.slots, Storable slot.contract ∧ Storable slot.label)
    (types : ∀ entry ∈ layout.types.entries, Storable entry.2) : Storable layout.toDocument := by
  have names : Entries.names (layout.types.entries.map fun entry =>
      (entry.1, Value.object [("label", entry.2)])) = layout.types.names := by
    rw [Entries.names, List.map_map]
    rfl
  have distinct : ["storage", "types"].Nodup := by decide
  refine .object distinct ?_
  intro entry member
  simp only [List.mem_cons, List.not_mem_nil, or_false] at member
  obtain rfl | rfl := member
  · refine .list (List.forall_mem_map.2 ?_)
    intro slot member
    exact storable_slot (slots slot member).1 (slots slot member).2
  · refine .object (by rw [names]; exact layout.types.distinct) (List.forall_mem_map.2 ?_)
    intro entry member
    exact storable_label (types entry member)

end StorageCompat.Layout
