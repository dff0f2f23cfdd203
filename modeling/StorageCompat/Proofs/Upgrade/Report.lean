import StorageCompat.Proofs.Success
import StorageCompat.Proofs.Upgrade.Verdict
import StorageCompat.Upgrade.Report

/-!
The report on an upgrade. Every change that is listed can be described, so there is a report where
there is a verdict, and it says the same. What it counts does not depend on whether equal variables
are listed.
-/

open StorageCompat.Alignment

namespace StorageCompat.Upgrade

theorem exists_describeSlot {layout : Layout} {slot : Slot} (member : slot ∈ layout.slots) :
    ∃ sentence, describeSlot layout slot = .ok sentence := by
  obtain ⟨type, labelled⟩ := layout.typeLabel_eq_ok slot member
  rw [describeSlot, labelled]
  exact ⟨_, rfl⟩

structure Between (older newer : Layout) (change : Change) : Prop where
  older : ∀ slot, change.older? = some slot → slot ∈ older.slots
  newer : ∀ slot, change.newer? = some slot → slot ∈ newer.slots

theorem between_of_isScript {older newer : Layout} {changes : List Change}
    (script : IsScript (slotPairing older newer) older.slots newer.slots changes) {change : Change}
    (member : change ∈ changes) : Between older newer change := by
  have faithful := script.faithful change member
  constructor
  · intro slot taken
    rw [faithful.older_element] at taken
    obtain ⟨index, _, found⟩ := Option.bind_eq_some_iff.1 taken
    exact List.mem_of_getElem? found
  · intro slot taken
    rw [faithful.newer_element] at taken
    obtain ⟨index, _, found⟩ := Option.bind_eq_some_iff.1 taken
    exact List.mem_of_getElem? found

theorem exists_describeChange {older newer : Layout} {change : Change}
    (between : Between older newer change) :
    ∃ sentence, describeChange older newer change = .ok sentence := by
  cases change with
  | pair pairing i first j second =>
      obtain ⟨before, described⟩ := exists_describeSlot (between.older first rfl)
      obtain ⟨after, described'⟩ := exists_describeSlot (between.newer second rfl)
      rw [describeChange, described, described']
      exact ⟨_, rfl⟩
  | delete i first =>
      obtain ⟨before, described⟩ := exists_describeSlot (between.older first rfl)
      rw [describeChange, described]
      exact ⟨_, rfl⟩
  | append j second =>
      obtain ⟨after, described⟩ := exists_describeSlot (between.newer second rfl)
      rw [describeChange, described]
      exact ⟨_, rfl⟩

/-- Changes between two layouts have a report, which counts those that break stored data. -/
theorem exists_ofChanges {older newer : Layout} {changes : List Change}
    (between : ∀ change ∈ changes, Between older newer change) :
    ∃ entries, Report.ofChanges changes older newer =
      .ok ⟨(breaking changes).isEmpty, (breaking changes).length, entries⟩ := by
  have described (change : Change) (member : change ∈ changes) :
      ∃ entry : ReportEntry, (do
        let description ← describeChange older newer change
        return (⟨change, description⟩ : ReportEntry)) = .ok entry := by
    obtain ⟨sentence, given⟩ := exists_describeChange (between change member)
    rw [given]
    exact ⟨_, rfl⟩
  obtain ⟨entries, given⟩ := exists_mapM described
  rw [Report.ofChanges, given]
  exact ⟨entries, rfl⟩

/-- What an upgrade breaks: the changes of the cheapest script that neither add a variable nor leave
one as it is. -/
def broken (costs : Option Costs) (older newer : Layout) : List Change :=
  (cheapestScript costs older newer).steps.filter fun change => !change.isAppend && !change.isEqual

theorem breaking_listed (policy : Policy) (older newer : Layout) :
    breaking ((cheapestScript policy.costs older newer).steps.filter (isListed policy)) =
      broken policy.costs older newer := by
  rw [breaking, List.filter_filter, broken]
  apply List.filter_congr
  intro change _
  rw [isListed]
  cases change.isEqual <;> cases change.isAppend <;> cases policy.includeEqual <;> rfl

theorem isEmpty_broken_iff (costs : Option Costs) (older newer : Layout) :
    (broken costs older newer).isEmpty = true ↔ Embeds older newer := by
  rw [← breaking_listed ⟨costs, false⟩, isEmpty_breaking_listed, onlyAdds_cheapestScript_iff]

theorem isEmpty_broken_eq (costs costs' : Option Costs) (older newer : Layout) :
    (broken costs older newer).isEmpty = (broken costs' older newer).isEmpty := by
  rw [Bool.eq_iff_iff, isEmpty_broken_iff, isEmpty_broken_iff]

theorem isSafe_eq_isEmpty_broken (policy : Policy) (older newer : Layout)
    (writable : Numeral.isWritable (cheapestScript policy.costs older newer).cost = true) :
    (isSafe policy older newer).result = .ok (broken policy.costs older newer).isEmpty := by
  rw [isSafe_result, script_eq, if_pos writable, ← breaking_listed policy]
  rfl

theorem changes_of_writable (policy : Policy) (older newer : Layout)
    (writable : Numeral.isWritable (cheapestScript policy.costs older newer).cost = true) :
    (changes policy older newer).result =
      .ok ((cheapestScript policy.costs older newer).steps.filter (isListed policy)) := by
  rw [changes_result, script_eq, if_pos writable]
  rfl

theorem changes_of_not_writable (policy : Policy) (older newer : Layout)
    (long : ¬Numeral.isWritable (cheapestScript policy.costs older newer).cost = true) :
    (changes policy older newer).result = .error (.numberTooLong none) := by
  rw [changes_result, script_eq, if_neg long]
  rfl

theorem between_of_mem_listed (policy : Policy) (older newer : Layout) :
    ∀ change ∈ (cheapestScript policy.costs older newer).steps.filter (isListed policy),
      Between older newer change := by
  intro change member
  exact between_of_isScript (cheapest_isScript _ _ _ _) (List.mem_of_mem_filter member)

theorem isWritable_standard (costs : Option Costs) (older newer : Layout)
    (writable : Numeral.isWritable (cheapestScript costs older newer).cost = true) :
    Numeral.isWritable (cheapestScript none older newer).cost = true := by
  rw [Numeral.isWritable_iff] at writable ⊢
  exact Nat.lt_of_le_of_lt
    (cheapest_cost_mono (costs.getD .standard).standard_ofAction_le _ _ _) writable

end StorageCompat.Upgrade
