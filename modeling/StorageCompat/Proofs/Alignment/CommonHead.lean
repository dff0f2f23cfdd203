import Mathlib.Data.List.Forall2
import StorageCompat.Proofs.Alignment.CommonTail

/-!
Sequences that begin with equal elements which occur nowhere else. The cheapest script pairs them in
place, whatever comes behind. For the trail to a front that is longer on one side only has to delete
or to add at least what it has more there, so it can afford no step that is not such a deletion or
addition, and a trail to longer fronts comes past the end of the equal ones.
-/

namespace StorageCompat.Alignment

variable {α β : Type}

def Correspond (pairing : α → β → Pairing) (older : List α) (newer : List β) : Prop :=
  List.Forall₂ (fun first second => pairing first second = .equal) older newer

def Apart (pairing : α → β → Pairing) (older : List α) (newer : List β) : Prop :=
  ∀ first ∈ older, ∀ second ∈ newer, pairing first second ≠ .equal

def diagonal (older : List α) (newer : List β) : List (Step α β) :=
  (older.zip newer).zipIdx.map fun entry => .pair .equal entry.2 entry.1.1 entry.2 entry.1.2

theorem Costs.ofPairing_pos (costs : Costs) {pairing : Pairing} (other : pairing ≠ .equal) :
    0 < costs.ofPairing pairing :=
  Nat.pos_of_ne_zero (mt (costs.ofPairing_eq_zero_iff pairing).1 other)

theorem Correspond.reverse {pairing : α → β → Pairing} {older : List α} {newer : List β}
    (correspond : Correspond pairing older newer) :
    Correspond pairing older.reverse newer.reverse :=
  List.forall₂_reverse_iff.2 correspond

theorem Apart.of_subset {pairing : α → β → Pairing} {older older' : List α}
    {newer newer' : List β} (apart : Apart pairing older newer) (fewer : older' ⊆ older)
    (fewer' : newer' ⊆ newer) : Apart pairing older' newer' := by
  intro first known second present
  exact apart first (fewer known) second (fewer' present)

theorem diagonal_concat {older : List α} {newer : List β} (even : older.length = newer.length)
    (first : α) (second : β) :
    diagonal (older ++ [first]) (newer ++ [second]) =
      diagonal older newer ++ [.pair .equal older.length first newer.length second] := by
  have places : (older.zip newer).length = older.length := by
    rw [List.length_zip, even, Nat.min_self]
  rw [diagonal, List.zip_append even, List.zipIdx_append, List.map_append, places, ← even]
  simp [diagonal]

theorem getElem?_diagonal {older : List α} {newer : List β} {k : Nat} {first : α} {second : β}
    (here : older[k]? = some first) (there : newer[k]? = some second) :
    (diagonal older newer)[k]? = some (.pair .equal k first k second) := by
  have both : (older.zip newer)[k]? = some (first, second) :=
    List.getElem?_zip_eq_some.2 ⟨here, there⟩
  rw [diagonal, List.getElem?_map, List.getElem?_zipIdx, both]
  simp

namespace Trail

section Bounds

variable (costs : Costs) (pairing : α → β → Pairing)

theorem between_nil_cost (olders : List α) :
    (between costs pairing olders []).cost = olders.length * costs.delete := by
  induction olders with
  | nil => simp [between, start]
  | cons older olders ih =>
      rw [between, extend_cost, ih, List.length_cons, Nat.succ_mul, Step.cost_delete]

theorem nil_between_cost (newers : List β) :
    (between costs pairing [] newers).cost = newers.length * costs.append := by
  induction newers with
  | nil => simp [between, start]
  | cons newer newers ih =>
      rw [between, extend_cost, ih, List.length_cons, Nat.succ_mul, Step.cost_append]

theorem le_between_cost_add_delete (olders : List α) (newers : List β) :
    olders.length * costs.delete ≤
      (between costs pairing olders newers).cost + newers.length * costs.delete := by
  induction newers with
  | nil =>
      rw [between_nil_cost]
      omega
  | cons newer newers ih =>
      have saved := between_cost_le_add_delete costs pairing olders newer newers
      rw [List.length_cons, Nat.succ_mul]
      omega

theorem le_between_cost_add_append (olders : List α) (newers : List β) :
    newers.length * costs.append ≤
      (between costs pairing olders newers).cost + olders.length * costs.append := by
  induction olders with
  | nil =>
      rw [nil_between_cost]
      omega
  | cons older olders ih =>
      have saved := between_cost_le_add_append costs pairing older olders newers
      rw [List.length_cons, Nat.succ_mul]
      omega

end Bounds

section Heads

variable (costs : Costs) {pairing : α → β → Pairing} {front : List α} {front' : List β}

theorem between_of_correspond (correspond : Correspond pairing front front') :
    (between costs pairing front front').cost = 0 ∧
      (between costs pairing front front').steps.reverse =
        diagonal front.reverse front'.reverse := by
  induction correspond with
  | nil => simp [between, start, diagonal]
  | @cons older newer olders newers equal correspond ih =>
      have even : olders.reverse.length = newers.reverse.length := by
        rw [List.length_reverse, List.length_reverse]
        exact correspond.length_eq
      rw [between_of_equal costs pairing equal, extend_cost, extend_steps, List.reverse_cons,
        List.reverse_cons, List.reverse_cons, diagonal_concat even, ih.1, ih.2,
        List.length_reverse, List.length_reverse]
      exact ⟨rfl, rfl⟩

theorem between_append_left_cost_le (correspond : Correspond pairing front front')
    (extra : List α) :
    (between costs pairing (extra ++ front) front').cost ≤ extra.length * costs.delete := by
  induction extra with
  | nil =>
      rw [List.nil_append, (between_of_correspond costs correspond).1]
      exact Nat.zero_le _
  | cons older extra ih =>
      have bound := between_cost_le_delete costs pairing older (extra ++ front) front'
      rw [List.cons_append, List.length_cons, Nat.succ_mul]
      omega

theorem between_append_right_cost_le (correspond : Correspond pairing front front')
    (extra : List β) :
    (between costs pairing front (extra ++ front')).cost ≤ extra.length * costs.append := by
  induction extra with
  | nil =>
      rw [List.nil_append, (between_of_correspond costs correspond).1]
      exact Nat.zero_le _
  | cons newer extra ih =>
      have bound := between_cost_le_append costs pairing front newer (extra ++ front')
      rw [List.cons_append, List.length_cons, Nat.succ_mul]
      omega

/-- What comes behind the equal elements of the first sequence alone is deleted. -/
theorem between_cons_append_left (correspond : Correspond pairing front front') (older : α)
    (extra : List α) (apart : Apart pairing [older] front') :
    between costs pairing (older :: (extra ++ front)) front' =
      (between costs pairing (extra ++ front) front').extend costs
        (.delete (extra ++ front).length older) := by
  have even := correspond.length_eq
  have cheap := between_append_left_cost_le costs correspond (older :: extra)
  have chosen := between_chosen costs pairing (older :: (extra ++ front)) front'
  rw [List.cons_append, List.length_cons, Nat.succ_mul] at cheap
  generalize between costs pairing (older :: (extra ++ front)) front' = trail at cheap chosen ⊢
  cases chosen with
  | delete => rfl
  | pair _ _ newer newers =>
      have least := le_between_cost_add_delete costs pairing (extra ++ front) newers
      have dear := costs.ofPairing_pos (apart older (by simp) newer (by simp))
      rw [List.length_append, even, List.length_cons, Nat.add_mul, Nat.succ_mul] at least
      rw [extend_cost, Step.cost_pair] at cheap
      omega
  | append _ newer newers =>
      have least := le_between_cost_add_delete costs pairing (older :: (extra ++ front)) newers
      have dear := costs.append_pos
      rw [List.length_cons, List.length_append, even, List.length_cons, Nat.succ_mul,
        Nat.add_mul, Nat.succ_mul] at least
      rw [extend_cost, Step.cost_append] at cheap
      omega

/-- What comes behind the equal elements of the second sequence alone is added. -/
theorem between_cons_append_right (correspond : Correspond pairing front front') (newer : β)
    (extra : List β) (apart : Apart pairing front [newer]) :
    between costs pairing front (newer :: (extra ++ front')) =
      (between costs pairing front (extra ++ front')).extend costs
        (.append (extra ++ front').length newer) := by
  have even := correspond.length_eq
  have cheap := between_append_right_cost_le costs correspond (newer :: extra)
  have chosen := between_chosen costs pairing front (newer :: (extra ++ front'))
  rw [List.cons_append, List.length_cons, Nat.succ_mul] at cheap
  generalize between costs pairing front (newer :: (extra ++ front')) = trail at cheap chosen ⊢
  cases chosen with
  | append => rfl
  | pair older olders =>
      have least := le_between_cost_add_append costs pairing olders (extra ++ front')
      have dear := costs.ofPairing_pos (apart older (by simp) newer (by simp))
      rw [List.length_append, ← even, List.length_cons, Nat.add_mul, Nat.succ_mul] at least
      rw [extend_cost, Step.cost_pair] at cheap
      omega
  | delete older olders =>
      have least := le_between_cost_add_append costs pairing olders (newer :: (extra ++ front'))
      have dear := costs.delete_pos
      rw [List.length_cons, List.length_append, ← even, List.length_cons, Nat.succ_mul,
        Nat.add_mul, Nat.succ_mul] at least
      rw [extend_cost, Step.cost_delete] at cheap
      omega

theorem between_steps_suffix (correspond : Correspond pairing front front') (extra : List α)
    (extra' : List β) (apart : Apart pairing extra front') (apart' : Apart pairing front extra') :
    (between costs pairing front front').steps <:+
      (between costs pairing (extra ++ front) (extra' ++ front')).steps := by
  induction extra generalizing extra' with
  | nil =>
      induction extra' with
      | nil => exact List.suffix_refl _
      | cons newer extra' ih =>
          have alone : Apart pairing front [newer] :=
            apart'.of_subset (List.Subset.refl front) (by simp)
          have others : Apart pairing front extra' :=
            apart'.of_subset (List.Subset.refl front) (List.subset_cons_self newer extra')
          rw [List.cons_append, List.nil_append,
            between_cons_append_right costs correspond newer extra' alone, extend_steps]
          exact (ih others).trans (List.suffix_cons _ _)
  | cons older extra ihOlder =>
      have fewer : Apart pairing extra front' :=
        apart.of_subset (List.subset_cons_self older extra) (List.Subset.refl front')
      induction extra' with
      | nil =>
          have alone : Apart pairing [older] front' :=
            apart.of_subset (by simp) (List.Subset.refl front')
          rw [List.cons_append, List.nil_append,
            between_cons_append_left costs correspond older extra alone, extend_steps]
          exact (ihOlder [] fewer apart').trans (List.suffix_cons _ _)
      | cons newer extra' ihNewer =>
          have others : Apart pairing front extra' :=
            apart'.of_subset (List.Subset.refl front) (List.subset_cons_self newer extra')
          have chosen := between_chosen costs pairing (older :: (extra ++ front))
            (newer :: (extra' ++ front'))
          rw [List.cons_append, List.cons_append]
          generalize between costs pairing (older :: (extra ++ front))
            (newer :: (extra' ++ front')) = trail at chosen ⊢
          -- Wherever the last step comes from, both fronts still have the equal elements in them.
          cases chosen with
          | pair => exact (ihOlder extra' fewer others).trans (List.suffix_cons _ _)
          | delete => exact (ihOlder (newer :: extra') fewer apart').trans (List.suffix_cons _ _)
          | append => exact (ihNewer others).trans (List.suffix_cons _ _)

end Heads

end Trail

/-- Equal elements at the heads of two sequences which occur nowhere behind are paired in place. -/
theorem diagonal_prefix_cheapest (costs : Costs) {pairing : α → β → Pairing} {head : List α}
    {head' : List β} (correspond : Correspond pairing head head') (later : List α)
    (later' : List β) (apart : Apart pairing later head') (apart' : Apart pairing head later') :
    diagonal head head' <+: (cheapest costs pairing (head ++ later) (head' ++ later')).steps := by
  have behind : Apart pairing later.reverse head'.reverse :=
    apart.of_subset (List.reverse_subset.2 (List.Subset.refl later))
      (List.reverse_subset.2 (List.Subset.refl head'))
  have behind' : Apart pairing head.reverse later'.reverse :=
    apart'.of_subset (List.reverse_subset.2 (List.Subset.refl head))
      (List.reverse_subset.2 (List.Subset.refl later'))
  have suffix := Trail.between_steps_suffix costs correspond.reverse later.reverse later'.reverse
    behind behind'
  have steps := (Trail.between_of_correspond costs correspond.reverse).2
  rw [List.reverse_reverse, List.reverse_reverse] at steps
  rw [cheapest_eq_between, List.reverse_append, List.reverse_append, ← steps]
  exact List.reverse_prefix.2 suffix

end StorageCompat.Alignment
