import StorageCompat.Proofs.Alignment.CommonHead
import StorageCompat.Proofs.Upgrade.Verdict

/-!
Costs that lead to the same script. A script between two sequences is cheapest exactly if its excess
is least, and in the excess a deletion and an addition are only counted together. So costs that
agree up to a factor, and in deletion and addition up to their sum, have the same cheapest scripts,
and of these the same one precedes all others.
-/

namespace StorageCompat.Alignment

variable {α β : Type}

/-- The second costs are the first ones times a factor, deletion and addition taken together. -/
structure Scaled (factor : Nat) (costs costs' : Costs) : Prop where
  positive : 0 < factor
  typeChange : costs'.typeChange = factor * costs.typeChange
  rename : costs'.rename = factor * costs.rename
  replace : costs'.replace = factor * costs.replace
  exchange : costs'.delete + costs'.append = factor * (costs.delete + costs.append)

section Excess

variable {costs costs' : Costs} {pairing : α → β → Pairing} {older : List α} {newer : List β}
  {steps : List (Step α β)}

/-- Between whole sequences cost and excess differ by what the lengths alone say. -/
theorem IsScript.total_cost_add (costs : Costs) (script : IsScript pairing older newer steps) :
    total (Step.cost costs) steps + older.length * costs.append =
      total (Step.excess costs) steps + newer.length * costs.append :=
  Path.total_cost_add costs script

theorem isCheapest_iff_excess :
    IsCheapest costs pairing older newer steps ↔
      IsScript pairing older newer steps ∧ ∀ others, IsScript pairing older newer others →
        total (Step.excess costs) steps ≤ total (Step.excess costs) others := by
  constructor
  · intro cheap
    refine ⟨cheap.script, ?_⟩
    intro others script
    have own := cheap.script.total_cost_add costs
    have other := script.total_cost_add costs
    have least := cheap.least others script
    omega
  · intro small
    refine ⟨small.1, ?_⟩
    intro others script
    have own := small.1.total_cost_add costs
    have other := script.total_cost_add costs
    have least := small.2 others script
    omega

namespace Scaled

variable {factor : Nat}

theorem excess_eq (scaled : Scaled factor costs costs') (step : Step α β) :
    step.excess costs' = factor * step.excess costs := by
  cases step with
  | pair pairing i first j second =>
      cases pairing with
      | equal => rfl
      | typeChange => exact scaled.typeChange
      | rename => exact scaled.rename
      | replace => exact scaled.replace
  | delete i first => exact scaled.exchange
  | append j second => rfl

theorem total_excess_eq (scaled : Scaled factor costs costs') (steps : List (Step α β)) :
    total (Step.excess costs') steps = factor * total (Step.excess costs) steps := by
  induction steps with
  | nil => rfl
  | cons step rest ih =>
      calc
        _ = step.excess costs' + total (Step.excess costs') rest := List.sum_cons
        _ = factor * (step.excess costs + total (Step.excess costs) rest) := by
          rw [scaled.excess_eq, ih, Nat.mul_add]
        _ = _ := by rw [total, total, List.map_cons, List.sum_cons]

theorem isCheapest_iff (scaled : Scaled factor costs costs') :
    IsCheapest costs' pairing older newer steps ↔ IsCheapest costs pairing older newer steps := by
  rw [isCheapest_iff_excess, isCheapest_iff_excess]
  apply and_congr_right
  intro _
  apply forall₂_congr
  intro others _
  rw [scaled.total_excess_eq, scaled.total_excess_eq]
  exact Nat.mul_le_mul_left_iff scaled.positive

end Scaled

theorem not_precedes_of_precedes {first second : List (Step α β)} (before : Precedes first second) :
    ¬Precedes second first :=
  List.lt_asymm before

theorem cheapest_steps_eq
    (same : ∀ steps, IsCheapest costs' pairing older newer steps ↔
      IsCheapest costs pairing older newer steps) :
    (cheapest costs' pairing older newer).steps = (cheapest costs pairing older newer).steps := by
  by_contra other
  have cheap := (same _).1 (isCheapest_cheapest costs' pairing older newer)
  have cheap' := (same _).2 (isCheapest_cheapest costs pairing older newer)
  have before := cheapest_precedes costs cheap other
  have before' := cheapest_precedes costs' cheap' (Ne.symm other)
  exact not_precedes_of_precedes before before'

end Excess

theorem cheapest_eq_mk (costs : Costs) (pairing : α → β → Pairing) (older : List α)
    (newer : List β) :
    cheapest costs pairing older newer =
      ⟨total (Step.cost costs) (cheapest costs pairing older newer).steps,
        (cheapest costs pairing older newer).steps⟩ := by
  rw [← cheapest_cost]

variable {m : Type → Type} [Monad m] [LawfulMonad m]

/-- Costs that agree up to a factor, and in deletion and addition up to their sum, lead to the same
steps; only what these cost together can be too long to be written under the one and not under the
other. -/
theorem align_scaled (factor : Nat) (costs costs' : Costs) (scaled : Scaled factor costs costs')
    (compare : α → β → m Answer) (pairing : α → β → Pairing) (older : List α) (newer : List β)
    (answers : Answers compare pairing older newer) :
    ∃ steps, Returns costs compare older newer ⟨total (Step.cost costs) steps, steps⟩ ∧
      Returns costs' compare older newer ⟨total (Step.cost costs') steps, steps⟩ := by
  have returns := returns_cheapest costs compare pairing older newer answers
  have returns' := returns_cheapest costs' compare pairing older newer answers
  have same : (cheapest costs' pairing older newer).steps =
      (cheapest costs pairing older newer).steps :=
    cheapest_steps_eq fun _ => scaled.isCheapest_iff
  rw [cheapest_eq_mk] at returns returns'
  rw [same] at returns'
  exact ⟨_, returns, returns'⟩

def tripled : Costs where
  typeChange := 3
  rename := 3
  replace := 6
  delete := 5
  append := 1
  typeChange_pos := Nat.succ_pos 2
  rename_pos := Nat.succ_pos 2
  delete_pos := Nat.succ_pos 4
  append_pos := Nat.succ_pos 0
  typeChange_lt_replace := Nat.lt_add_of_pos_right (Nat.succ_pos 2)
  rename_lt_replace := Nat.lt_add_of_pos_right (Nat.succ_pos 2)

theorem scaled_tripled : Scaled 3 .standard tripled :=
  ⟨by decide, rfl, rfl, rfl, rfl⟩

theorem align_scaled_letters :
    Scaled 3 .standard tripled ∧
    Answers countLetters pairLetters ['a', 'b', 'c'] ['b', 'c', 'd', 'e'] ∧
    ∃ steps,
      Returns .standard countLetters ['a', 'b', 'c'] ['b', 'c', 'd', 'e']
        ⟨total (Step.cost .standard) steps, steps⟩ ∧
      Returns tripled countLetters ['a', 'b', 'c'] ['b', 'c', 'd', 'e']
        ⟨total (Step.cost tripled) steps, steps⟩ := by
  have answers := countLetters_answers ['a', 'b', 'c'] ['b', 'c', 'd', 'e']
  exact ⟨scaled_tripled, answers,
    align_scaled 3 .standard tripled scaled_tripled countLetters pairLetters _ _ answers⟩

def alignLetters (costs : Costs) (older newer : List Char) : Except Fault (Script Char Char) :=
  ((align costs countLetters older newer).run.run 0).1

/-- Where there is nothing to compare, the letters are added if what this costs can be written. -/
theorem alignLetters_nil (costs : Costs) (newer : List Char) :
    alignLetters costs [] newer =
      if Numeral.isWritable (newer.length * costs.append) then
        .ok (cheapest costs pairLetters [] newer)
      else .error (.numberTooLong none) := by
  have cost : (cheapest costs pairLetters [] newer).cost = newer.length * costs.append := by
    rw [cheapest_eq_between]
    simp only [List.reverse_nil, Trail.nil_between_cost, List.length_reverse]
  rw [alignLetters, align_eq costs countLetters pairLetters [] newer (countLetters_answers _ _),
    ← cost, conclude]
  split <;> rfl

def dearestDeletion : Costs :=
  { Costs.standard with
    delete := Upgrade.dearestAddition.append
    delete_pos := Upgrade.dearestAddition.append_pos }

/-- Two additions are cheap where deletions are dear, and they cost too much to be written where it
is the other way round, though a deletion and an addition cost the same together. -/
theorem not_alignLetters_traded :
    Scaled 1 dearestDeletion Upgrade.dearestAddition ∧
      alignLetters dearestDeletion [] ['a', 'b'] = .ok ⟨2, [.append 0 'a', .append 1 'b']⟩ ∧
      ¬∃ script, alignLetters Upgrade.dearestAddition [] ['a', 'b'] = .ok script := by
  have cost := Upgrade.dearestAddition_append
  have positive := Upgrade.dearestAddition.append_pos
  have long : ¬Numeral.isWritable (['a', 'b'].length * Upgrade.dearestAddition.append) = true := by
    rw [Numeral.isWritable_iff]
    simp only [List.length_cons, List.length_nil]
    omega
  refine ⟨⟨by decide, rfl, rfl, rfl, ?_⟩, ?_, ?_⟩
  · have delete : dearestDeletion.delete = Upgrade.dearestAddition.append := rfl
    have append : dearestDeletion.append = Upgrade.dearestAddition.delete := rfl
    rw [Nat.one_mul, delete, append, Nat.add_comm]
  · rw [alignLetters_nil]
    rfl
  · rw [alignLetters_nil, if_neg long]
    intro returned
    obtain ⟨script, absurd⟩ := returned
    cases absurd

end StorageCompat.Alignment
