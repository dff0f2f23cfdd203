import StorageCompat.Proofs.Alignment.Cheapest

/-!
Costs without what the lengths alone force. A script between two sequences adds as many
elements more than it deletes as the second sequence is longer, so additions can be counted as
free if each deletion also pays for the addition that makes up for it. What is left, the
excess, is least for the same scripts as the cost, and it is nothing exactly when every step
pairs equal elements or adds one.
-/

namespace StorageCompat.Alignment

variable {α β : Type}

/-- What a step costs if additions are free and deletions pay for them. -/
def Step.excess (costs : Costs) : Step α β → Nat
  | .pair pairing _ _ _ _ => costs.ofPairing pairing
  | .delete _ _ => costs.delete + costs.append
  | .append _ _ => 0

def OnlyAdds (steps : List (Step α β)) : Prop :=
  ∀ step ∈ steps, step.isEqual = true ∨ step.isAppend = true

theorem Step.excess_eq_zero_iff (costs : Costs) (step : Step α β) :
    step.excess costs = 0 ↔ step.isEqual = true ∨ step.isAppend = true := by
  cases step with
  | pair pairing i first j second =>
      rw [excess, costs.ofPairing_eq_zero_iff]
      simp [isEqual, isAppend, action]
  | delete i first =>
      have positive := costs.delete_pos
      simp [excess, isEqual, isAppend, action]
      omega
  | append j second => simp [excess, isAppend, action]

theorem total_excess_eq_zero_iff (costs : Costs) (steps : List (Step α β)) :
    total (Step.excess costs) steps = 0 ↔ OnlyAdds steps := by
  rw [total, List.sum_eq_zero_iff_forall_eq_nat, List.forall_mem_map]
  exact forall₂_congr fun step _ => step.excess_eq_zero_iff costs

/-- The cost and the excess of a path differ by what its fronts alone say. -/
theorem Path.total_cost_add (costs : Costs) {pairing : α → β → Pairing} {older : List α}
    {newer : List β} {i j : Nat} {steps : List (Step α β)}
    (path : Path pairing older newer i j steps) :
    total (Step.cost costs) steps + i * costs.append =
      total (Step.excess costs) steps + j * costs.append := by
  induction path with
  | start => rw [total_nil, total_nil]
  | pair before here there ih =>
      rw [total_concat, total_concat, Nat.succ_mul, Nat.succ_mul]
      simp only [Step.cost, Step.excess, Step.action, Costs.ofAction]
      omega
  | delete before here ih =>
      rw [total_concat, total_concat, Nat.succ_mul]
      simp only [Step.cost, Step.excess, Step.action, Costs.ofAction]
      omega
  | append before there ih =>
      rw [total_concat, total_concat, Nat.succ_mul]
      simp only [Step.cost, Step.excess, Step.action, Costs.ofAction]
      omega

theorem total_excess_cheapest_le (costs : Costs) {pairing : α → β → Pairing} {older : List α}
    {newer : List β} {steps : List (Step α β)} (script : IsScript pairing older newer steps) :
    total (Step.excess costs) (cheapest costs pairing older newer).steps ≤
      total (Step.excess costs) steps := by
  have bound := cheapest_le costs script
  have least := (cheapest_isScript costs pairing older newer).total_cost_add costs
  have other := script.total_cost_add costs
  rw [← cheapest_cost] at least
  omega

/-- The cheapest script only adds if any script does, whatever the costs. -/
theorem onlyAdds_cheapest_iff (costs : Costs) (pairing : α → β → Pairing) (older : List α)
    (newer : List β) :
    OnlyAdds (cheapest costs pairing older newer).steps ↔
      ∃ steps, IsScript pairing older newer steps ∧ OnlyAdds steps := by
  constructor
  · intro adds
    exact ⟨_, cheapest_isScript costs pairing older newer, adds⟩
  · rintro ⟨steps, script, adds⟩
    have bound := total_excess_cheapest_le costs script
    rw [(total_excess_eq_zero_iff costs steps).2 adds] at bound
    exact (total_excess_eq_zero_iff costs _).1 (Nat.le_zero.1 bound)

theorem cheapest_cost_of_onlyAdds (costs : Costs) {pairing : α → β → Pairing}
    {older : List α} {newer : List β}
    (adds : OnlyAdds (cheapest costs pairing older newer).steps) :
    (cheapest costs pairing older newer).cost =
      (newer.length - older.length) * costs.append := by
  have balance := (cheapest_isScript costs pairing older newer).total_cost_add costs
  rw [← cheapest_cost, (total_excess_eq_zero_iff costs _).2 adds] at balance
  rw [Nat.sub_mul]
  omega

end StorageCompat.Alignment
