import StorageCompat.Fault
import StorageCompat.Proofs.Success

/-!
Computations that never break the command off. They give a value, or they are refused for what the
input says, and the command reports such a refusal. A sequence settles if each part does that is
come to, a traversal if it settles at each element up to the first that is refused.
-/

namespace StorageCompat

variable {α β : Type}

/-- The computation gives a value, or it is refused for what the input says. -/
def Settles (result : Except Fault α) : Prop :=
  ∀ fault, result = .error fault → fault.isInputFault = true

theorem settles_ok (value : α) : Settles (.ok value) := by
  intro fault refused
  cases refused

theorem settles_error_iff (fault : Fault) :
    Settles (.error fault : Except Fault α) ↔ fault.isInputFault = true := by
  constructor
  · intro settles
    exact settles fault rfl
  · rintro reported _ ⟨⟩
    exact reported

theorem not_settles_error (fault : Fault) (other : fault.isInputFault = false) :
    ¬Settles (.error fault : Except Fault α) := by
  rw [settles_error_iff, other]
  exact Bool.false_ne_true

theorem settles_bind_iff (first : Except Fault α) (next : α → Except Fault β) :
    Settles (first >>= next) ↔
      Settles first ∧ ∀ value, first = .ok value → Settles (next value) := by
  cases first with
  | error fault =>
      have unchanged : Except.error fault >>= next = .error fault := rfl
      rw [unchanged, settles_error_iff, settles_error_iff]
      simp
  | ok found =>
      have passed : Except.ok found >>= next = next found := rfl
      rw [passed]
      constructor
      · intro settles
        refine ⟨settles_ok found, ?_⟩
        rintro _ ⟨⟩
        exact settles
      · rintro ⟨-, settles⟩
        exact settles found rfl

theorem settles_map_iff (first : Except Fault α) (next : α → β) :
    Settles (first.map next) ↔ Settles first := by
  cases first with
  | error fault => exact (settles_error_iff fault).trans (settles_error_iff fault).symm
  | ok value => exact iff_of_true (settles_ok _) (settles_ok _)

/-- Every element up to the first one that is not accepted is good. -/
def UpToFirst (accepted good : α → Prop) (elements : List α) : Prop :=
  ∀ before element behind, elements = before ++ element :: behind →
    (∀ earlier ∈ before, accepted earlier) → good element

theorem upToFirst_nil (accepted good : α → Prop) : UpToFirst accepted good [] := by
  intro before element behind parts
  exact absurd parts.symm (List.append_ne_nil_of_right_ne_nil _ (List.cons_ne_nil _ _))

theorem upToFirst_cons_iff (accepted good : α → Prop) (first : α) (rest : List α) :
    UpToFirst accepted good (first :: rest) ↔
      good first ∧ (accepted first → UpToFirst accepted good rest) := by
  constructor
  · intro each
    refine ⟨each [] first rest rfl (List.forall_mem_nil _), ?_⟩
    rintro passes before element behind rfl earlier
    exact each (first :: before) element behind rfl (List.forall_mem_cons.2 ⟨passes, earlier⟩)
  · rintro ⟨here, later⟩ before element behind parts earlier
    cases before with
    | nil =>
        cases parts
        exact here
    | cons other before =>
        cases parts
        obtain ⟨passes, earlier⟩ := List.forall_mem_cons.1 earlier
        exact later passes before element behind rfl earlier

theorem settles_mapM_iff (visit : α → Except Fault β) (elements : List α) :
    Settles (elements.mapM visit) ↔
      UpToFirst (fun element => ∃ value, visit element = .ok value)
        (fun element => Settles (visit element)) elements := by
  induction elements with
  | nil => exact iff_of_true (settles_ok []) (upToFirst_nil _ _)
  | cons element rest ih =>
      rw [List.mapM_cons, settles_bind_iff, upToFirst_cons_iff, ← ih]
      apply and_congr_right
      intro _
      rw [forall_exists_index]
      apply forall₂_congr
      intro value _
      rw [settles_bind_iff]
      exact and_iff_left fun values _ => settles_ok _

end StorageCompat
