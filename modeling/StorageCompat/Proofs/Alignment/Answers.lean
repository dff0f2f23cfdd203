import StorageCompat.Proofs.Alignment.Fronts

/-!
Alignments whose comparison answers well. The comparison may do more than answer, for
instance count how often it is asked; as long as every answer is the pairing of a function,
aligning asks once for each pair, row by row, and comes to the cheapest script of that
function.
-/

namespace StorageCompat.Alignment

variable {m : Type → Type} [Monad m] {α β : Type}

/-- Every answer of the comparison is the pairing of a function: putting that in the place of
the answer changes nothing. -/
def Answers (compare : α → β → m Answer) (pairing : α → β → Pairing) (older : List α)
    (newer : List β) : Prop :=
  ∀ first ∈ older, ∀ second ∈ newer,
    (fun _ => .action (.pair (pairing first second))) <$> compare first second =
      compare first second

theorem Answers.of_subset {compare : α → β → m Answer} {pairing : α → β → Pairing}
    {older older' : List α} {newer newer' : List β}
    (answers : Answers compare pairing older newer) (fewer : older' ⊆ older)
    (fewer' : newer' ⊆ newer) : Answers compare pairing older' newer' := by
  intro first known second present
  exact answers first (fewer known) second (fewer' present)

def ask (compare : α → β → m Answer) (first : α) (second : β) : ExceptT Fault m Unit := do
  let _ ← compare first second
  return ()

def askAll (compare : α → β → m Answer) (older : List α) (newer : List β) :
    ExceptT Fault m Unit :=
  forM older fun first => forM newer (ask compare first)

def conclude (script : Script α β) : ExceptT Fault m (Script α β) :=
  if Numeral.isWritable script.cost then return script else throw (.numberTooLong none)

variable [LawfulMonad m]

theorem mapM_eq_forM {γ δ : Type} (visit : γ → ExceptT Fault m δ)
    (effect : γ → ExceptT Fault m Unit) (value : γ → δ) (elements : List γ)
    (parts : ∀ element ∈ elements,
      visit element = effect element >>= fun _ => pure (value element)) :
    elements.mapM visit = forM elements effect >>= fun _ => pure (elements.map value) := by
  induction elements with
  | nil => simp
  | cons element rest ih =>
      have here := parts element List.mem_cons_self
      have later := ih fun other member => parts other (List.mem_cons_of_mem _ member)
      simp only [List.mapM_cons, List.forM_cons, here, later, bind_assoc, pure_bind,
        List.map_cons]

theorem forM_eq_pure {γ : Type} (visit : γ → ExceptT Fault m Unit) (elements : List γ)
    (silent : ∀ element ∈ elements, visit element = pure ()) :
    forM elements visit = pure () := by
  induction elements with
  | nil => exact List.forM_nil
  | cons element rest ih =>
      have later := ih fun other member => silent other (List.mem_cons_of_mem _ member)
      rw [List.forM_cons, silent element List.mem_cons_self, pure_bind, later]

theorem askAll_eq_pure (compare : α → β → m Answer) (older : List α) (newer : List β)
    (silent : ∀ first ∈ older, ∀ second ∈ newer, ∃ answer,
      compare first second = pure answer) :
    askAll compare older newer = pure () := by
  apply forM_eq_pure
  intro first known
  apply forM_eq_pure
  intro second present
  obtain ⟨answer, answered⟩ := silent first known second present
  rw [ask, answered]
  simp

theorem judge_eq (compare : α → β → m Answer) (pairing : α → β → Pairing) (first : α)
    (second : β)
    (answered : (fun _ => .action (.pair (pairing first second))) <$> compare first second =
      compare first second) :
    judge compare first second =
      ask compare first second >>= fun _ => pure (pairing first second) := by
  let answer := Answer.action (.pair (pairing first second))
  -- The answer can be put in before it is looked at, whatever is then done with it.
  have known (next : Answer → ExceptT Fault m Pairing) :
      (liftM (compare first second) >>= next) =
        liftM (compare first second) >>= fun _ => next answer := by
    calc
      _ = liftM ((fun _ => answer) <$> compare first second) >>= next := by rw [answered]
      _ = _ := by simp
  rw [judge, known, ask]
  simp [answer, Answer.pairing?]

theorem judgeAll_eq (compare : α → β → m Answer) (pairing : α → β → Pairing)
    (older : List α) (newer : List β) (answers : Answers compare pairing older newer) :
    judgeAll compare older newer =
      askAll compare older newer >>= fun _ =>
        pure (older.map fun element => newer.map (pairing element)) := by
  apply mapM_eq_forM
  intro first known
  apply mapM_eq_forM
  intro second present
  exact judge_eq compare pairing first second (answers first known second present)

theorem align_eq (costs : Costs) (compare : α → β → m Answer) (pairing : α → β → Pairing)
    (older : List α) (newer : List β) (answers : Answers compare pairing older newer) :
    align costs compare older newer =
      askAll compare older newer >>= fun _ =>
        conclude (cheapest costs pairing older newer) := by
  rw [align, judgeAll_eq compare pairing older newer answers]
  simp only [bind_assoc, pure_bind]
  rfl

end StorageCompat.Alignment
