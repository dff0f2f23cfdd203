import StorageCompat.Fault

/-!
Computations that may fail and that note what they do. The notes made up to a failure are
kept. Taking the result forgets the notes and respects every way to combine computations,
so statements about results need not mention notes.
-/

namespace StorageCompat

inductive Level where
  | debug
  | info
  | error
  deriving DecidableEq, Repr

def Level.name : Level → String
  | .debug => "DEBUG"
  | .info => "INFO"
  | .error => "ERROR"

structure Record where
  level : Level
  message : String
  deriving DecidableEq, Repr

def Record.line (record : Record) : String :=
  record.level.name ++ " - " ++ record.message

/-- What a computation comes to, and the notes it made on the way. -/
structure Logged (α : Type) where
  result : Except Fault α
  log : List Record

namespace Logged

variable {α β : Type}

instance : Monad Logged where
  pure value := ⟨.ok value, []⟩
  bind first next :=
    match first.result with
    | .ok value => ⟨(next value).result, first.log ++ (next value).log⟩
    | .error fault => ⟨.error fault, first.log⟩

instance : MonadExceptOf Fault Logged where
  throw fault := ⟨.error fault, []⟩
  tryCatch first handle :=
    match first.result with
    | .ok _ => first
    | .error fault => ⟨(handle fault).result, first.log ++ (handle fault).log⟩

instance : MonadLift (Except Fault) Logged where
  monadLift result := ⟨result, []⟩

def note (level : Level) (message : String) : Logged Unit :=
  ⟨.ok (), [⟨level, message⟩]⟩

@[simp] theorem result_pure (value : α) : (pure value : Logged α).result = .ok value := rfl

@[simp] theorem result_bind (first : Logged α) (next : α → Logged β) :
    (first >>= next).result = first.result >>= fun value => (next value).result := by
  obtain ⟨result, log⟩ := first
  cases result <;> rfl

@[simp] theorem result_lift (result : Except Fault α) :
    (monadLift result : Logged α).result = result := rfl

@[simp] theorem result_note (level : Level) (message : String) :
    (note level message).result = .ok () := rfl

private theorem eq_of_parts {first second : Logged α} (results : first.result = second.result)
    (logs : first.log = second.log) : first = second := by
  cases first
  cases second
  simp_all

private theorem map_id_eq {α : Type} (first : Logged α) : id <$> first = first := by
  obtain ⟨result, log⟩ := first
  cases result <;> simp [Functor.map]

private theorem pure_bind_eq {α β : Type} (value : α) (next : α → Logged β) :
    (pure value >>= next) = next value :=
  eq_of_parts rfl (List.nil_append _)

private theorem bind_assoc_eq {α β γ : Type} (first : Logged α) (next : α → Logged β)
    (last : β → Logged γ) :
    (first >>= next) >>= last = first >>= fun value => next value >>= last := by
  obtain ⟨result, log⟩ := first
  cases result with
  | error fault => rfl
  | ok value =>
      simp only [bind]
      cases (next value).result <;> simp

instance : LawfulMonad Logged := LawfulMonad.mk' Logged map_id_eq pure_bind_eq bind_assoc_eq

theorem result_filterMapM (visit : α → Logged (Option β)) (items : List α) :
    (items.filterMapM visit).result = items.filterMapM fun item => (visit item).result := by
  induction items with
  | nil => rfl
  | cons item rest ih =>
      rw [List.filterMapM_cons, List.filterMapM_cons, result_bind]
      apply bind_congr
      intro value
      cases value with
      | none => exact ih
      | some value =>
          rw [result_bind, ih]
          rfl

end Logged

end StorageCompat
