import Mathlib.Algebra.Order.Ring.Nat
import StorageCompat.Proofs.Alignment.Fronts

/-!
Edit scripts as paths through the grid. A path starts at the empty fronts and each of its
steps makes one front longer, or both. What a path has taken from either side is exactly the
front it has come to, in order, and each step says truly what it takes.
-/

namespace StorageCompat.Alignment

variable {α β : Type}

/-- The steps lead from the empty fronts to the fronts of `i` and of `j` elements. -/
inductive Path (pairing : α → β → Pairing) (older : List α) (newer : List β) :
    Nat → Nat → List (Step α β) → Prop where
  | start : Path pairing older newer 0 0 []
  | pair {i j : Nat} {steps : List (Step α β)} {first : α} {second : β}
      (before : Path pairing older newer i j steps) (here : older[i]? = some first)
      (there : newer[j]? = some second) :
      Path pairing older newer (i + 1) (j + 1)
        (steps ++ [.pair (pairing first second) i first j second])
  | delete {i j : Nat} {steps : List (Step α β)} {first : α}
      (before : Path pairing older newer i j steps) (here : older[i]? = some first) :
      Path pairing older newer (i + 1) j (steps ++ [.delete i first])
  | append {i j : Nat} {steps : List (Step α β)} {second : β}
      (before : Path pairing older newer i j steps) (there : newer[j]? = some second) :
      Path pairing older newer i (j + 1) (steps ++ [.append j second])

def IsScript (pairing : α → β → Pairing) (older : List α) (newer : List β)
    (steps : List (Step α β)) : Prop :=
  Path pairing older newer older.length newer.length steps

def total (weight : Step α β → Nat) (steps : List (Step α β)) : Nat :=
  (steps.map weight).sum

@[simp] theorem total_nil (weight : Step α β → Nat) : total weight [] = 0 := rfl

@[simp] theorem total_concat (weight : Step α β → Nat) (steps : List (Step α β))
    (step : Step α β) : total weight (steps ++ [step]) = total weight steps + weight step := by
  simp only [total, List.map_append, List.sum_append, List.map_cons, List.map_nil,
    List.sum_cons, List.sum_nil, Nat.add_zero]

theorem total_le_total {weight weight' : Step α β → Nat}
    (lighter : ∀ step, weight step ≤ weight' step)
    (steps : List (Step α β)) : total weight steps ≤ total weight' steps := by
  induction steps with
  | nil => exact Nat.le_refl 0
  | cons step rest ih =>
      simp only [total, List.map_cons, List.sum_cons]
      exact Nat.add_le_add (lighter step) ih

/-- What a step says of the two sequences is true: which sides it has, the elements it takes
there, and how they compare. -/
structure Step.Faithful (pairing : α → β → Pairing) (older : List α) (newer : List β)
    (step : Step α β) : Prop where
  older_absent : step.olderIndex? = none ↔ step.action = .append
  newer_absent : step.newerIndex? = none ↔ step.action = .delete
  older_element : step.older? = step.olderIndex?.bind fun index => older[index]?
  newer_element : step.newer? = step.newerIndex?.bind fun index => newer[index]?
  compared : ∀ i j, step.olderIndex? = some i → step.newerIndex? = some j →
    ∃ first second, older[i]? = some first ∧ newer[j]? = some second ∧
      step.action = .pair (pairing first second)

namespace Step

theorem map_olderIndex?_kept (steps : List (Step α β)) :
    (steps.filter fun step => !step.isAppend).map olderIndex? =
      (steps.filterMap olderIndex?).map some := by
  induction steps with
  | nil => rfl
  | cons step rest ih =>
      cases step with
      | pair pairing i first j second =>
          exact congrArg (some i :: ·) ih
      | delete i first => exact congrArg (some i :: ·) ih
      | append j second => exact ih

variable (pairing : α → β → Pairing) (older : List α) (newer : List β)

theorem faithful_pair {i j : Nat} {first : α} {second : β} (here : older[i]? = some first)
    (there : newer[j]? = some second) :
    (pair (pairing first second) i first j second).Faithful pairing older newer where
  older_absent := by simp [olderIndex?, action]
  newer_absent := by simp [newerIndex?, action]
  older_element := here.symm
  newer_element := there.symm
  compared := by
    intro _ _ olderIndex newerIndex
    cases olderIndex
    cases newerIndex
    exact ⟨first, second, here, there, rfl⟩

theorem faithful_delete {i : Nat} {first : α} (here : older[i]? = some first) :
    (delete i first : Step α β).Faithful pairing older newer where
  older_absent := by simp [olderIndex?, action]
  newer_absent := by simp [newerIndex?, action]
  older_element := here.symm
  newer_element := rfl
  compared := by
    intro _ _ _ newerIndex
    cases newerIndex

theorem faithful_append {j : Nat} {second : β} (there : newer[j]? = some second) :
    (append j second : Step α β).Faithful pairing older newer where
  older_absent := by simp [olderIndex?, action]
  newer_absent := by simp [newerIndex?, action]
  older_element := rfl
  newer_element := there.symm
  compared := by
    intro _ _ olderIndex
    cases olderIndex

end Step

namespace Path

variable {pairing : α → β → Pairing} {older : List α} {newer : List β} {i j : Nat}
  {steps : List (Step α β)}

theorem olderIndices (path : Path pairing older newer i j steps) :
    steps.filterMap Step.olderIndex? = List.range i := by
  induction path with
  | start => rfl
  | pair before here there ih | delete before here ih =>
      rw [List.filterMap_append, ih, List.range_succ]
      rfl
  | append before there ih =>
      rw [List.filterMap_append, ih]
      exact List.append_nil _

theorem newerIndices (path : Path pairing older newer i j steps) :
    steps.filterMap Step.newerIndex? = List.range j := by
  induction path with
  | start => rfl
  | pair before here there ih =>
      rw [List.filterMap_append, ih, List.range_succ]
      rfl
  | delete before here ih =>
      rw [List.filterMap_append, ih]
      exact List.append_nil _
  | append before there ih =>
      rw [List.filterMap_append, ih, List.range_succ]
      rfl

/-- Without additions each step names a place of the first sequence, and they do so in order. -/
theorem olderIndices_kept (path : Path pairing older newer i j steps) :
    (steps.filter fun step => !step.isAppend).map Step.olderIndex? = (List.range i).map some := by
  rw [← path.olderIndices, Step.map_olderIndex?_kept]

/-- Whatever steps are kept, those that name places of the second sequence do so in order. -/
theorem newerIndices_kept (path : Path pairing older newer i j steps)
    (keeps : Step α β → Bool) :
    ((steps.filter keeps).filterMap Step.newerIndex?).Pairwise (· < ·) := by
  have fewer : List.Sublist ((steps.filter keeps).filterMap Step.newerIndex?) (List.range j) := by
    rw [← path.newerIndices]
    exact List.filter_sublist.filterMap _
  exact List.pairwise_lt_range.sublist fewer

theorem faithful (path : Path pairing older newer i j steps) :
    ∀ step ∈ steps, step.Faithful pairing older newer := by
  induction path with
  | start => simp
  | pair before here there ih =>
      have last := Step.faithful_pair pairing older newer here there
      exact List.forall_mem_append.2 ⟨ih, List.forall_mem_singleton.2 last⟩
  | delete before here ih =>
      have last := Step.faithful_delete pairing older newer here
      exact List.forall_mem_append.2 ⟨ih, List.forall_mem_singleton.2 last⟩
  | append before there ih =>
      have last := Step.faithful_append pairing older newer there
      exact List.forall_mem_append.2 ⟨ih, List.forall_mem_singleton.2 last⟩

end Path

end StorageCompat.Alignment
