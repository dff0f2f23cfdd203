import StorageCompat.Proofs.Alignment.Preference

/-!
Sequences that end in equal elements. Their script is that of what comes before, with the two
elements paired behind it. For a front with one element more saves no more than what deleting or
adding that element costs, so no other last step is cheaper than a pairing that is free.
-/

namespace StorageCompat.Alignment

variable {α β : Type}

namespace Trail

variable (costs : Costs) (pairing : α → β → Pairing)

theorem between_cost_le_add_delete (olders : List α) (newer : β) (newers : List β) :
    (between costs pairing olders newers).cost ≤
      (between costs pairing olders (newer :: newers)).cost + costs.delete := by
  induction olders with
  | nil =>
      rw [between, extend_cost]
      omega
  | cons older olders ih =>
      have bound := between_cost_le_delete costs pairing older olders newers
      have chosen := between_chosen costs pairing (older :: olders) (newer :: newers)
      generalize between costs pairing (older :: olders) (newer :: newers) = trail at chosen ⊢
      cases chosen with
      | pair =>
          rw [extend_cost]
          omega
      | delete =>
          rw [extend_cost]
          exact Nat.le_trans bound (Nat.add_le_add_right ih costs.delete)
      | append =>
          rw [extend_cost]
          omega

theorem between_cost_le_add_append (older : α) (olders : List α) (newers : List β) :
    (between costs pairing olders newers).cost ≤
      (between costs pairing (older :: olders) newers).cost + costs.append := by
  induction newers with
  | nil =>
      rw [between, extend_cost]
      omega
  | cons newer newers ih =>
      have bound := between_cost_le_append costs pairing olders newer newers
      have chosen := between_chosen costs pairing (older :: olders) (newer :: newers)
      generalize between costs pairing (older :: olders) (newer :: newers) = trail at chosen ⊢
      cases chosen with
      | pair =>
          rw [extend_cost]
          omega
      | delete =>
          rw [extend_cost]
          omega
      | append =>
          rw [extend_cost]
          exact Nat.le_trans bound (Nat.add_le_add_right ih costs.append)

theorem between_of_equal {older : α} {newer : β} (equal : pairing older newer = .equal)
    (olders : List α) (newers : List β) :
    between costs pairing (older :: olders) (newer :: newers) =
      (between costs pairing olders newers).extend costs
        (.pair .equal olders.length older newers.length newer) := by
  have deleted := between_cost_le_add_delete costs pairing olders newer newers
  have appended := between_cost_le_add_append costs pairing older olders newers
  rw [between, equal]
  exact if_pos ⟨deleted, appended⟩

end Trail

theorem cheapest_concat_of_equal (costs : Costs) {pairing : α → β → Pairing} {first : α}
    {second : β} (equal : pairing first second = .equal) (older : List α) (newer : List β) :
    cheapest costs pairing (older ++ [first]) (newer ++ [second]) =
      ⟨(cheapest costs pairing older newer).cost,
        (cheapest costs pairing older newer).steps ++
          [.pair .equal older.length first newer.length second]⟩ := by
  have last := Trail.between_of_equal costs pairing equal older.reverse newer.reverse
  rw [List.length_reverse, List.length_reverse] at last
  rw [cheapest_eq_between, cheapest_eq_between, List.reverse_concat, List.reverse_concat, last,
    Trail.extend_steps, List.reverse_cons]
  rfl

variable {m : Type → Type} [Monad m] [LawfulMonad m]

/-- Two sequences that end in equal elements are aligned as without these, which are then
paired. -/
theorem align_concat_of_equal (costs : Costs) (compare : α → β → m Answer)
    (pairing : α → β → Pairing) (older : List α) (newer : List β) (first : α) (second : β)
    (answers : Answers compare pairing (older ++ [first]) (newer ++ [second]))
    (equal : pairing first second = .equal) :
    ∃ script, Returns costs compare older newer script ∧
      Returns costs compare (older ++ [first]) (newer ++ [second])
        ⟨script.cost, script.steps ++ [.pair .equal older.length first newer.length second]⟩ := by
  have before := answers.of_subset (List.subset_append_left older [first])
    (List.subset_append_left newer [second])
  refine ⟨cheapest costs pairing older newer, ?_, ?_⟩
  · exact returns_cheapest costs compare pairing older newer before
  · rw [← cheapest_concat_of_equal costs equal]
    exact returns_cheapest costs compare pairing _ _ answers

theorem align_concat_of_equal_letters :
    Answers countLetters pairLetters (['a', 'c'] ++ ['c']) (['c', 'c', 'b'] ++ ['c']) ∧
    pairLetters 'c' 'c' = .equal ∧
    ∃ script, Returns .standard countLetters ['a', 'c'] ['c', 'c', 'b'] script ∧
      Returns .standard countLetters (['a', 'c'] ++ ['c']) (['c', 'c', 'b'] ++ ['c'])
        ⟨script.cost, script.steps ++ [.pair .equal 2 'c' 3 'c']⟩ := by
  have answers := countLetters_answers (['a', 'c'] ++ ['c']) (['c', 'c', 'b'] ++ ['c'])
  have equal : pairLetters 'c' 'c' = .equal := by decide
  exact ⟨answers, equal,
    align_concat_of_equal .standard countLetters pairLetters _ _ 'c' 'c' answers equal⟩

end StorageCompat.Alignment
