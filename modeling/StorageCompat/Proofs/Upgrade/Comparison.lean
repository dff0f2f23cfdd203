import StorageCompat.Proofs.Layout.Construction
import StorageCompat.Proofs.Upgrade.Report

/-!
Comparing layouts. The one thing that a layout has to be checked for is done when it is made, so
whatever layouts there are can be compared: the list of changes, the report on it and the verdict
are all given, unless even the least cost of a script is too long to be written.
-/

open StorageCompat.Alignment

namespace StorageCompat.Upgrade

def comparison (policy : Policy) (older newer : Layout) : Except Fault (List Change × Report) := do
  let listed ← (changes policy older newer).result
  let report ← Report.ofChanges listed older newer
  return (listed, report)

structure Comparable (policy : Policy) (older newer : Layout) : Prop where
  compared : ∃ listed report, comparison policy older newer = .ok (listed, report)
  judged : ∃ safe, (isSafe policy older newer).result = .ok safe

/-- The least cost of a script is too long to be written, so nothing is said of the layouts. -/
structure Incomparable (policy : Policy) (older newer : Layout) : Prop where
  listed : (changes policy older newer).result = .error (.numberTooLong none)
  judged : (isSafe policy older newer).result = .error (.numberTooLong none)

theorem comparable_of_writable (policy : Policy) (older newer : Layout)
    (writable : Numeral.isWritable (cheapestScript policy.costs older newer).cost = true) :
    Comparable policy older newer where
  compared := by
    have between := between_of_mem_listed policy older newer
    obtain ⟨entries, reported⟩ := exists_ofChanges between
    rw [comparison, changes_of_writable policy older newer writable]
    change ∃ listed report, (Report.ofChanges _ older newer >>= _) = _
    rw [reported]
    exact ⟨_, _, rfl⟩
  judged := ⟨_, isSafe_eq_isEmpty_broken policy older newer writable⟩

theorem incomparable_of_not_writable (policy : Policy) (older newer : Layout)
    (long : ¬Numeral.isWritable (cheapestScript policy.costs older newer).cost = true) :
    Incomparable policy older newer where
  listed := changes_of_not_writable policy older newer long
  judged := isSafe_of_not_writable policy older newer long

/-- Variables make a layout exactly if their types are listed, extraction makes one of what it
collects and is never refused for it, and a document makes the one of its parts; what a layout has
would make it again. Whatever layouts there are, any policy compares and judges them, unless even
the least cost of a script between them is too long to be written. -/
theorem layouts_comparable :
    (∀ slots types, Layout.build (slots.map Slot.toDraft) types =
      if registered : ∀ slot ∈ slots, slot.type ∈ types.names then .ok ⟨slots, types, registered⟩
      else .error (.unregisteredTypes ((Layout.unlisted types slots).map Value.text))) ∧
    (∀ definition, (Layout.ofContract definition).result =
      Layout.collected definition >>= fun entries =>
        Layout.build (entries.map fun entry => entry.1.toDraft)
          (.ofList (entries.map fun entry => (entry.1.type, entry.2)))) ∧
    (∀ definition fault, (Layout.ofContract definition).result = .error fault →
      ¬fault.IsOfLayout) ∧
    (∀ document layout, Layout.ofDocument document = .ok layout ↔
      Layout.readParts document = .ok (layout.slots.map Slot.toDraft, layout.types)) ∧
    (∀ layout : Layout,
      Layout.build (layout.slots.map Slot.toDraft) layout.types = .ok layout) ∧
    ∀ policy older newer, ∃ least, IsLeast (scriptCosts policy.costs older newer) least ∧
      ((least < 10 ^ Numeral.longest ∧ Comparable policy older newer) ∨
        (10 ^ Numeral.longest ≤ least ∧ Incomparable policy older newer)) := by
  refine ⟨Layout.build_toDraft, Layout.ofContract_eq_build, ?_, Layout.ofDocument_eq_ok_iff,
    Layout.build_self, ?_⟩
  · intro definition fault refused
    exact Layout.not_isOfLayout_of_ofContract refused
  · intro policy older newer
    exact exists_least_of_writable policy.costs older newer
      (comparable_of_writable policy older newer) (incomparable_of_not_writable policy older newer)

/-- Documents can hold layouts that valid costs keep from being compared. -/
theorem not_comparable_dearestAddition :
    Layout.ofDocument Layout.empty.toDocument = .ok .empty ∧
      Layout.ofDocument twoCounters.toDocument = .ok twoCounters ∧
        ¬∃ listed, (changes ⟨some dearestAddition, false⟩ .empty twoCounters).result =
          .ok listed := by
  have cost := dearestAddition_append
  have positive := dearestAddition.append_pos
  have slots : twoCounters.slots.length - Layout.empty.slots.length = 2 := rfl
  refine ⟨rfl, rfl, ?_⟩
  rw [changes_of_not_writable]
  · rintro ⟨_, ⟨⟩⟩
  · rw [Numeral.isWritable_iff, cheapestScript_cost_of_embeds _ _ _ (.of_empty twoCounters), slots,
      Option.getD_some]
    omega

end StorageCompat.Upgrade
