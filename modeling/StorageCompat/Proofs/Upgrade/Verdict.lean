import Mathlib.Order.Bounds.Defs
import StorageCompat.Proofs.Alignment.Embedding
import StorageCompat.Proofs.Value.Writable
import StorageCompat.Upgrade.Changes

/-!
The verdict on an upgrade. Aligning two layouts asks for labels that every variable of a layout
has, so the only thing that can keep the verdict from being given is a cost too long to be
written. Where it is given it says whether the old variables are all found among the new ones,
in order, and no choice of costs has a part in that.
-/

open StorageCompat.Alignment

namespace StorageCompat.Upgrade

/-- The two variables have the same label, and the labels that their layouts give to their
types are the same. -/
def SameVariable (older newer : Layout) (first second : Slot) : Prop :=
  first.label.same second.label = true ∧
    ∃ firstType secondType, older.typeLabel first = .ok firstType ∧
      newer.typeLabel second = .ok secondType ∧ firstType.same secondType = true

def slotPairing (older newer : Layout) (first second : Slot) : Pairing :=
  pairing (first.label.same second.label)
    (match older.typeLabel first, newer.typeLabel second with
      | .ok firstType, .ok secondType => firstType.same secondType
      | _, _ => false)

theorem pairing_eq_equal_iff (sameLabel sameType : Bool) :
    pairing sameLabel sameType = .equal ↔ sameLabel = true ∧ sameType = true := by
  cases sameLabel <;> cases sameType <;> decide

theorem slotPairing_eq_equal_iff (older newer : Layout) (first second : Slot) :
    slotPairing older newer first second = .equal ↔
      SameVariable older newer first second := by
  rw [slotPairing, pairing_eq_equal_iff, SameVariable]
  apply and_congr_right
  intro _
  cases older.typeLabel first with
  | error fault => simp
  | ok firstType =>
      cases newer.typeLabel second with
      | error fault => simp
      | ok secondType => simp

theorem compareSlots_eq (older newer : Layout) (first second : Slot)
    (known : first ∈ older.slots) (present : second ∈ newer.slots) :
    compareSlots older newer first second =
      .ok (.action (.pair (slotPairing older newer first second))) := by
  obtain ⟨firstType, firstLabel⟩ := older.typeLabel_eq_ok first known
  obtain ⟨secondType, secondLabel⟩ := newer.typeLabel_eq_ok second present
  rw [compareSlots, slotPairing, firstLabel, secondLabel]
  rfl

theorem compareSlots_answers (older newer : Layout) :
    Answers (compareSlots older newer) (slotPairing older newer) older.slots newer.slots := by
  intro first known second present
  rw [compareSlots_eq older newer first second known present]
  rfl

def cheapestScript (costs : Option Costs) (older newer : Layout) : Script Slot Slot :=
  cheapest (costs.getD .standard) (slotPairing older newer) older.slots newer.slots

theorem askAll_compareSlots (older newer : Layout) :
    askAll (compareSlots older newer) older.slots newer.slots = pure () := by
  apply askAll_eq_pure
  intro first known second present
  exact ⟨_, compareSlots_eq older newer first second known present⟩

theorem script_eq (costs : Option Costs) (older newer : Layout) :
    script costs older newer =
      if Numeral.isWritable (cheapestScript costs older newer).cost then
        .ok (cheapestScript costs older newer)
      else .error (.numberTooLong none) := by
  have aligned := align_eq (costs.getD .standard) _ _ _ _ (compareSlots_answers older newer)
  rw [askAll_compareSlots, pure_bind] at aligned
  rw [script, aligned]
  unfold conclude cheapestScript
  split <;> rfl

theorem result_forM_noteChange (changes : List Change) :
    (forM changes noteChange : Logged Unit).result = .ok () := by
  induction changes with
  | nil => rfl
  | cons change rest ih =>
      rw [List.forM_cons, Logged.result_bind, ih]
      rfl

theorem changes_result (policy : Policy) (older newer : Layout) :
    (changes policy older newer).result =
      (script policy.costs older newer).map fun script =>
        script.steps.filter (isListed policy) := by
  rw [changes, Logged.result_bind]
  change (script policy.costs older newer >>= _) = _
  cases script policy.costs older newer with
  | error fault => rfl
  | ok script =>
      simp only [List.forM_eq_forM, Logged.result_bind, Logged.result_note,
        Logged.result_pure, result_forM_noteChange]
      rfl

theorem isSafe_result (policy : Policy) (older newer : Layout) :
    (isSafe policy older newer).result =
      (script policy.costs older newer).map fun script =>
        (breaking (script.steps.filter (isListed policy))).isEmpty := by
  rw [isSafe, Logged.result_bind, changes_result]
  cases script policy.costs older newer <;> rfl

theorem isEmpty_breaking_listed (policy : Policy) (changes : List Change) :
    (breaking (changes.filter (isListed policy))).isEmpty = true ↔ OnlyAdds changes := by
  rw [breaking, List.filter_filter, List.isEmpty_iff, List.filter_eq_nil_iff]
  apply forall₂_congr
  intro change _
  rw [isListed]
  cases change.isEqual <;> cases change.isAppend <;> simp

/-- The old variables are all found among the new ones, in order. -/
def Embeds (older newer : Layout) : Prop :=
  ∃ place, Embedding (SameVariable older newer) older.slots newer.slots place

theorem Embeds.of_empty (newer : Layout) : Embeds .empty newer :=
  ⟨Fin.elim0, fun first => first.elim0, fun first => first.elim0⟩

theorem onlyAdds_cheapestScript_iff (costs : Option Costs) (older newer : Layout) :
    OnlyAdds (cheapestScript costs older newer).steps ↔ Embeds older newer := by
  rw [cheapestScript, onlyAdds_cheapest_iff_embedding]
  simp only [slotPairing_eq_equal_iff]
  rfl

/-- The verdict is given where the cost of the cheapest script can be written. -/
theorem isSafe_of_writable (policy : Policy) (older newer : Layout)
    (writable : Numeral.isWritable (cheapestScript policy.costs older newer).cost = true) :
    ∃ verdict, (isSafe policy older newer).result = .ok verdict ∧
      (verdict = true ↔ Embeds older newer) := by
  rw [isSafe_result, script_eq, if_pos writable]
  refine ⟨_, rfl, ?_⟩
  rw [isEmpty_breaking_listed, onlyAdds_cheapestScript_iff]

theorem isSafe_of_not_writable (policy : Policy) (older newer : Layout)
    (long : ¬Numeral.isWritable (cheapestScript policy.costs older newer).cost = true) :
    (isSafe policy older newer).result = .error (.numberTooLong none) := by
  rw [isSafe_result, script_eq, if_neg long]
  rfl

def scriptCosts (costs : Option Costs) (older newer : Layout) : Set Nat :=
  fun cost => ∃ steps, IsScript (slotPairing older newer) older.slots newer.slots steps ∧
    total (Step.cost (costs.getD .standard)) steps = cost

theorem isLeast_cheapestScript (costs : Option Costs) (older newer : Layout) :
    IsLeast (scriptCosts costs older newer) (cheapestScript costs older newer).cost := by
  constructor
  · exact ⟨_, cheapest_isScript _ _ _ _, (cheapest_cost _ _ _ _).symm⟩
  · rintro cost ⟨steps, script, rfl⟩
    exact cheapest_le _ script

/-- The cost of the cheapest script can be written exactly if the least cost of a script can. -/
theorem isWritable_iff_isLeast (costs : Option Costs) (older newer : Layout) :
    Numeral.isWritable (cheapestScript costs older newer).cost = true ↔
      ∃ least, IsLeast (scriptCosts costs older newer) least ∧ least < 10 ^ Numeral.longest := by
  rw [Numeral.isWritable_iff]
  constructor
  · intro short
    exact ⟨_, isLeast_cheapestScript costs older newer, short⟩
  · rintro ⟨least, isLeast, short⟩
    exact Nat.lt_of_le_of_lt ((isLeast_cheapestScript costs older newer).2 isLeast.1) short

/-- What holds of two layouts can turn on whether the least cost of a script can be written. -/
theorem exists_least_of_writable (costs : Option Costs) (older newer : Layout) {Short Long : Prop}
    (short : Numeral.isWritable (cheapestScript costs older newer).cost = true → Short)
    (long : ¬Numeral.isWritable (cheapestScript costs older newer).cost = true → Long) :
    ∃ least, IsLeast (scriptCosts costs older newer) least ∧
      ((least < 10 ^ Numeral.longest ∧ Short) ∨ (10 ^ Numeral.longest ≤ least ∧ Long)) := by
  refine ⟨_, isLeast_cheapestScript costs older newer, ?_⟩
  rw [Numeral.isWritable_iff] at short long
  obtain less | more := Nat.lt_or_ge (cheapestScript costs older newer).cost (10 ^ Numeral.longest)
  · exact Or.inl ⟨less, short less⟩
  · exact Or.inr ⟨more, long (Nat.not_lt.2 more)⟩

/-- If the old variables are all found, the cheapest script costs what it adds. -/
theorem cheapestScript_cost_of_embeds (costs : Option Costs) (older newer : Layout)
    (embeds : Embeds older newer) :
    (cheapestScript costs older newer).cost =
      (newer.slots.length - older.slots.length) * (costs.getD .standard).append :=
  cheapest_cost_of_onlyAdds _ ((onlyAdds_cheapestScript_iff costs older newer).2 embeds)

/-- An upgrade is judged safe exactly when the old variables are all found among the new ones
in order, and the cost of adding the others can be written. -/
theorem isSafe_eq_true_iff (policy : Policy) (older newer : Layout) :
    (isSafe policy older newer).result = .ok true ↔
      Embeds older newer ∧
        (newer.slots.length - older.slots.length) * (policy.costs.getD .standard).append <
          10 ^ Numeral.longest := by
  by_cases writable : Numeral.isWritable (cheapestScript policy.costs older newer).cost = true
  · obtain ⟨verdict, given, meaning⟩ := isSafe_of_writable policy older newer writable
    rw [given, Except.ok.injEq, meaning]
    constructor
    · intro embeds
      rw [cheapestScript_cost_of_embeds _ _ _ embeds, Numeral.isWritable_iff] at writable
      exact ⟨embeds, writable⟩
    · exact And.left
  · rw [isSafe_of_not_writable policy older newer writable]
    constructor
    · intro absurd
      cases absurd
    · rintro ⟨embeds, short⟩
      rw [cheapestScript_cost_of_embeds _ _ _ embeds, Numeral.isWritable_iff] at writable
      exact absurd short writable

/-- The verdict is refused exactly when even the least cost of a script between the layouts is
too long to be written. Where it is given it says whether the old variables are all found
among the new ones in order, whatever the costs and whatever is listed. -/
theorem isSafe_embeds (policy : Policy) (older newer : Layout) :
    ∃ least, IsLeast (scriptCosts policy.costs older newer) least ∧
      ((least < 10 ^ Numeral.longest ∧ ∃ verdict,
          (isSafe policy older newer).result = .ok verdict ∧
            (verdict = true ↔ Embeds older newer)) ∨
        (10 ^ Numeral.longest ≤ least ∧
          (isSafe policy older newer).result = .error (.numberTooLong none))) := by
  refine ⟨_, isLeast_cheapestScript policy.costs older newer, ?_⟩
  by_cases writable : Numeral.isWritable (cheapestScript policy.costs older newer).cost = true
  · have short := (Numeral.isWritable_iff _).1 writable
    exact Or.inl ⟨short, isSafe_of_writable policy older newer writable⟩
  · have long := isSafe_of_not_writable policy older newer writable
    rw [Numeral.isWritable_iff, Nat.not_lt] at writable
    exact Or.inr ⟨writable, long⟩

def dearestAddition : Costs :=
  { Costs.standard with
    append := 10 ^ Numeral.longest - 1
    append_pos := by
      have large : 1 < 10 ^ Numeral.longest := Nat.one_lt_pow (by decide) (by decide)
      omega }

theorem dearestAddition_append : dearestAddition.append + 1 = 10 ^ Numeral.longest :=
  Nat.sub_add_cancel (Nat.pow_pos (by decide))

def twoCounters : Layout :=
  .ofLabelled
    [(⟨.text "V", .text "a", "t_uint256"⟩, .text "uint256"),
      (⟨.text "V", .text "b", "t_uint256"⟩, .text "uint256")]

/-- Two additions can cost too much to be written, though there is nothing that they break. -/
theorem isSafe_dearestAddition :
    ¬((isSafe ⟨some dearestAddition, false⟩ .empty twoCounters).result = .ok true ↔
      Embeds .empty twoCounters) := by
  have embeds := Embeds.of_empty twoCounters
  have slots : twoCounters.slots.length - Layout.empty.slots.length = 2 := rfl
  have cost := dearestAddition_append
  have positive := dearestAddition.append_pos
  rw [isSafe_eq_true_iff, slots, Option.getD_some]
  intro meaning
  have short := (meaning.2 embeds).2
  omega

end StorageCompat.Upgrade
