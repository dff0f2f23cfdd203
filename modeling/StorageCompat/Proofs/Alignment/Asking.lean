import Mathlib.Data.List.ProdSigma
import StorageCompat.Proofs.Alignment.EquivalentCosts

/-!
What a comparison is asked. Its answers may be any at all, and each may turn on everything that was
asked before. The pairs are asked about row by row, each once, and the first answer that pairs
nothing ends the alignment there and then; without one nothing is asked after the last pair.
-/

namespace StorageCompat.Alignment

variable {α β γ δ : Type}

def noting (answer : List (α × β) → α → β → Answer) (first : α) (second : β) :
    StateM (List (α × β)) Answer := do
  let asked ← get
  set (asked ++ [(first, second)])
  return answer asked first second

def runBehind (asked : List (α × β)) (visit : ExceptT Fault (StateM (List (α × β))) γ) :
    Except Fault γ × List (α × β) :=
  visit.run.run asked

def replies (answer : List (α × β) → α → β → Answer) :
    (asked pairs : List (α × β)) → List Answer
  | _, [] => []
  | asked, pair :: rest =>
      answer asked pair.1 pair.2 :: replies answer (asked ++ [pair]) rest

def legal (pairing : Pairing) : Answer :=
  .action (.pair pairing)

/-- The first of the answers that pairs nothing, behind those that are pairings. -/
def Breaks (answers : List Answer) (pairings : List Pairing) (given : Answer) : Prop :=
  given.pairing? = none ∧ ∃ rest, answers = pairings.map legal ++ given :: rest

theorem eq_legal_of_pairing? {given : Answer} {pairing : Pairing}
    (paired : given.pairing? = some pairing) : given = legal pairing := by
  unfold Answer.pairing? at paired
  split at paired
  case h_1 =>
    cases paired
    rfl
  case h_2 => cases paired

/-- Either all answers are pairings, or there is a first one that is none. -/
theorem exists_breaks (answers : List Answer) :
    (∃ pairings : List Pairing, answers = pairings.map legal) ∨
      ∃ pairings given, Breaks answers pairings given := by
  induction answers with
  | nil => exact Or.inl ⟨[], rfl⟩
  | cons first rest ih =>
      cases paired : first.pairing? with
      | none => exact Or.inr ⟨[], first, paired, rest, rfl⟩
      | some pairing =>
          obtain rfl := eq_legal_of_pairing? paired
          rcases ih with ⟨pairings, rfl⟩ | ⟨pairings, given, illegal, later, rfl⟩
          · exact Or.inl ⟨pairing :: pairings, rfl⟩
          · exact Or.inr ⟨pairing :: pairings, given, illegal, later, rfl⟩

theorem breaks_cons_iff (pairing : Pairing) (answers : List Answer) (pairings : List Pairing)
    (given : Answer) :
    Breaks (legal pairing :: answers) pairings given ↔
      ∃ later, pairings = pairing :: later ∧ Breaks answers later given := by
  constructor
  · intro breaks
    obtain ⟨illegal, rest, parts⟩ := breaks
    cases pairings with
    | nil =>
        obtain rfl := (List.cons.inj parts).1
        cases illegal
    | cons other later =>
        obtain ⟨same, behind⟩ := List.cons.inj parts
        cases same
        exact ⟨later, rfl, illegal, rest, behind⟩
  · intro parts
    obtain ⟨later, rfl, illegal, rest, rfl⟩ := parts
    exact ⟨illegal, rest, rfl⟩

theorem breaks_append_iff (front : List Pairing) (answers : List Answer)
    (pairings : List Pairing) (given : Answer) :
    Breaks (front.map legal ++ answers) pairings given ↔
      ∃ later, pairings = front ++ later ∧ Breaks answers later given := by
  induction front generalizing pairings with
  | nil => simp
  | cons pairing front ih =>
      rw [List.map_cons, List.cons_append, breaks_cons_iff]
      simp only [ih, List.cons_append]
      constructor
      · intro parts
        obtain ⟨_, rfl, later, rfl, breaks⟩ := parts
        exact ⟨later, rfl, breaks⟩
      · intro parts
        obtain ⟨later, rfl, breaks⟩ := parts
        exact ⟨_, rfl, later, rfl, breaks⟩

section Replies

variable (answer : List (α × β) → α → β → Answer)

@[simp] theorem length_replies (asked pairs : List (α × β)) :
    (replies answer asked pairs).length = pairs.length := by
  induction pairs generalizing asked with
  | nil => rfl
  | cons pair rest ih => rw [replies, List.length_cons, ih, List.length_cons]

theorem replies_append (asked front later : List (α × β)) :
    replies answer asked (front ++ later) =
      replies answer asked front ++ replies answer (asked ++ front) later := by
  induction front generalizing asked with
  | nil => simp [replies]
  | cons pair rest ih => simp [replies, ih]

/-- Each answer is given where all pairs in front have been asked about. -/
theorem getElem?_replies (asked pairs : List (α × β)) (k : Nat) :
    (replies answer asked pairs)[k]? =
      pairs[k]?.map fun pair => answer (asked ++ pairs.take k) pair.1 pair.2 := by
  induction pairs generalizing asked k with
  | nil => rfl
  | cons pair rest ih =>
      cases k with
      | zero => simp [replies]
      | succ k => simp [replies, ih]

end Replies

section Runs

variable {answer : List (α × β) → α → β → Answer} {asked asked' : List (α × β)}
  {visit : ExceptT Fault (StateM (List (α × β))) γ}

theorem runBehind_bind_ok {value : γ} (ran : runBehind asked visit = (.ok value, asked'))
    (next : γ → ExceptT Fault (StateM (List (α × β))) δ) :
    runBehind asked (visit >>= next) = runBehind asked' (next value) := by
  change (visit >>= next).run.run asked = _
  rw [ExceptT.run_bind, StateT.run_bind]
  change (runBehind asked visit >>= _ : Id _) = _
  rw [ran]
  rfl

theorem runBehind_bind_error {fault : Fault}
    (ran : runBehind asked visit = (.error fault, asked'))
    (next : γ → ExceptT Fault (StateM (List (α × β))) δ) :
    runBehind asked (visit >>= next) = (.error fault, asked') := by
  change (visit >>= next).run.run asked = _
  rw [ExceptT.run_bind, StateT.run_bind]
  change (runBehind asked visit >>= _ : Id _) = _
  rw [ran]
  rfl

theorem runBehind_judge (asked : List (α × β)) (first : α) (second : β) :
    runBehind asked (judge (noting answer) first second) =
      runBehind (asked ++ [(first, second)])
        (match (answer asked first second).pairing? with
          | some pairing => pure pairing
          | none => throw (.illegalAnswer (answer asked first second))) := by
  change runBehind asked (liftM (noting answer first second) >>= _) = _
  have ran : runBehind asked (liftM (noting answer first second)) =
    (.ok (answer asked first second), asked ++ [(first, second)]) := rfl
  exact runBehind_bind_ok ran _

theorem runBehind_judge_of_legal {first : α} {second : β} {pairing : Pairing}
    (given : answer asked first second = legal pairing) :
    runBehind asked (judge (noting answer) first second) =
      (.ok pairing, asked ++ [(first, second)]) := by
  rw [runBehind_judge, given]
  rfl

theorem runBehind_judge_of_illegal {first : α} {second : β}
    (illegal : (answer asked first second).pairing? = none) :
    runBehind asked (judge (noting answer) first second) =
      (.error (.illegalAnswer (answer asked first second)), asked ++ [(first, second)]) := by
  rw [runBehind_judge, illegal]
  rfl

end Runs

theorem Breaks.append {answers : List Answer} {pairings : List Pairing} {given : Answer}
    (breaks : Breaks answers pairings given) (later : List Answer) :
    Breaks (answers ++ later) pairings given := by
  obtain ⟨illegal, rest, rfl⟩ := breaks
  exact ⟨illegal, rest ++ later, by rw [List.append_assoc, List.cons_append]⟩

theorem Breaks.length_lt {answers : List Answer} {pairings : List Pairing} {given : Answer}
    (breaks : Breaks answers pairings given) : pairings.length < answers.length := by
  obtain ⟨-, rest, rfl⟩ := breaks
  rw [List.length_append, List.length_map, List.length_cons]
  omega

theorem Breaks.unique {answers : List Answer} {pairings pairings' : List Pairing}
    {given given' : Answer} (breaks : Breaks answers pairings given)
    (breaks' : Breaks answers pairings' given') : pairings = pairings' ∧ given = given' := by
  obtain ⟨illegal, rest, rfl⟩ := breaks
  obtain ⟨later, rfl, illegal', rest', parts⟩ := (breaks_append_iff _ _ _ _).1 breaks'
  cases later with
  | nil =>
      rw [List.append_nil]
      exact ⟨rfl, (List.cons.inj parts).1⟩
  | cons pairing later =>
      obtain rfl := (List.cons.inj parts).1
      cases illegal

/-- A visit asks about these pairs, one after the other. If all answers are pairings, what it ends
with holds them; otherwise the first answer that pairs nothing ends it, and nothing more is
asked. -/
structure Asks (answer : List (α × β) → α → β → Answer) (pairs : List (α × β))
    (holds : γ → List Pairing → Prop) (visit : ExceptT Fault (StateM (List (α × β))) γ) :
    Prop where
  passes : ∀ asked pairings, replies answer asked pairs = pairings.map legal →
    ∃ value, holds value pairings ∧ runBehind asked visit = (.ok value, asked ++ pairs)
  stops : ∀ asked pairings given, Breaks (replies answer asked pairs) pairings given →
    runBehind asked visit =
      (.error (.illegalAnswer given), asked ++ pairs.take (pairings.length + 1))

def HoldsOne (pairing : Pairing) (pairings : List Pairing) : Prop :=
  pairings = [pairing]

inductive Gathered {ε : Type} (holds : ε → γ → List Pairing → Prop) :
    List ε → List γ → List Pairing → Prop
  | nil : Gathered holds [] [] []
  | cons {element : ε} {value : γ} {front : List Pairing} {elements : List ε} {values : List γ}
      {later : List Pairing} (here : holds element value front)
      (behind : Gathered holds elements values later) :
      Gathered holds (element :: elements) (value :: values) (front ++ later)

section Visits

variable {answer : List (α × β) → α → β → Answer}

theorem asks_judge (first : α) (second : β) :
    Asks answer [(first, second)] HoldsOne (judge (noting answer) first second) where
  passes := by
    intro asked pairings legals
    obtain ⟨pairing, later, rfl, given, nothing⟩ := List.map_eq_cons_iff.1 legals.symm
    obtain rfl := List.map_eq_nil_iff.1 nothing
    exact ⟨pairing, rfl, runBehind_judge_of_legal given.symm⟩
  stops := by
    intro asked pairings given breaks
    have short := breaks.length_lt
    obtain ⟨illegal, rest, parts⟩ := breaks
    obtain rfl := List.eq_nil_of_length_eq_zero (Nat.lt_one_iff.1 short)
    obtain rfl := (List.cons.inj parts).1
    exact runBehind_judge_of_illegal illegal

theorem Asks.cons {ε : Type} {holds : ε → γ → List Pairing → Prop} {element : ε}
    {elements : List ε} {pairs later : List (α × β)}
    {visit : ε → ExceptT Fault (StateM (List (α × β))) γ}
    (here : Asks answer pairs (holds element) (visit element))
    (behind : Asks answer later (Gathered holds elements) (elements.mapM visit)) :
    Asks answer (pairs ++ later) (Gathered holds (element :: elements))
      ((element :: elements).mapM visit) where
  passes := by
    intro asked pairings legals
    rw [replies_append] at legals
    obtain ⟨front, rest, rfl, legal, legal'⟩ := List.map_eq_append_iff.1 legals.symm
    obtain ⟨value, held, ran⟩ := here.passes asked front legal.symm
    obtain ⟨values, held', ran'⟩ := behind.passes _ rest legal'.symm
    refine ⟨value :: values, .cons held held', ?_⟩
    rw [List.mapM_cons, runBehind_bind_ok ran, runBehind_bind_ok ran', List.append_assoc]
    rfl
  stops := by
    intro asked pairings given breaks
    rw [replies_append] at breaks
    rw [List.mapM_cons]
    -- The first break lies behind what the first visit asks, or ends that visit already.
    rcases exists_breaks (replies answer asked pairs) with ⟨front, legals⟩ | ⟨front, early, first⟩
    · obtain ⟨value, -, ran⟩ := here.passes asked front legals
      have same : pairs.length = front.length := by
        rw [← length_replies answer asked pairs, legals, List.length_map]
      rw [legals, breaks_append_iff] at breaks
      obtain ⟨rest, rfl, breaks⟩ := breaks
      rw [runBehind_bind_ok ran, runBehind_bind_error (behind.stops _ rest given breaks),
        List.append_assoc, List.length_append, ← same, Nat.add_assoc, List.take_length_add_append]
    · obtain ⟨rfl, rfl⟩ := breaks.unique (first.append _)
      have short : pairings.length + 1 ≤ pairs.length := by
        rw [← length_replies answer asked pairs]
        exact first.length_lt
      rw [runBehind_bind_error (here.stops asked pairings given first),
        List.take_append_of_le_length short]

theorem Asks.mapM {ε : Type} {holds : ε → γ → List Pairing → Prop} {pairs : ε → List (α × β)}
    {visit : ε → ExceptT Fault (StateM (List (α × β))) γ}
    (parts : ∀ element, Asks answer (pairs element) (holds element) (visit element))
    (elements : List ε) :
    Asks answer (elements.flatMap pairs) (Gathered holds elements) (elements.mapM visit) := by
  induction elements with
  | nil =>
      constructor
      · intro asked pairings legals
        obtain rfl := List.map_eq_nil_iff.1 legals.symm
        exact ⟨[], .nil, by rw [List.flatMap_nil, List.append_nil]; rfl⟩
      · intro asked pairings given breaks
        cases breaks.length_lt
  | cons element rest ih =>
      rw [List.flatMap_cons]
      exact (parts element).cons ih

end Visits

theorem Gathered.row {newer : List β} {row pairings : List Pairing}
    (gathered : Gathered (fun _ => HoldsOne) newer row pairings) :
    row.length = newer.length ∧ row = pairings := by
  induction gathered with
  | nil => exact ⟨rfl, rfl⟩
  | cons here _ ih =>
      obtain ⟨length, rfl⟩ := ih
      obtain rfl : _ = [_] := here
      exact ⟨congrArg (· + 1) length, rfl⟩

/-- The rows are as many as there are elements on the one side, and each is as long as the other
side. -/
structure Measures (older : List α) (newer : List β) (table : List (List γ)) : Prop where
  rows : table.length = older.length
  columns : ∀ row ∈ table, row.length = newer.length

theorem Gathered.table {older : List α} {newer : List β} {table : List (List Pairing)}
    {pairings : List Pairing}
    (gathered : Gathered (fun _ => Gathered (fun _ => HoldsOne) newer) older table pairings) :
    Measures older newer table ∧ table.flatten = pairings := by
  induction gathered with
  | nil => exact ⟨⟨rfl, fun _ absurd => nomatch absurd⟩, rfl⟩
  | cons here _ ih =>
      obtain ⟨measures, rfl⟩ := ih
      obtain ⟨length, rfl⟩ := here.row
      refine ⟨⟨congrArg (· + 1) measures.rows, ?_⟩, rfl⟩
      intro other member
      rcases List.mem_cons.1 member with rfl | later
      · exact length
      · exact measures.columns other later

theorem asks_judgeAll (answer : List (α × β) → α → β → Answer) (older : List α)
    (newer : List β) :
    Asks answer (older ×ˢ newer)
      (fun table pairings => Measures older newer table ∧ table.flatten = pairings)
      (judgeAll (noting answer) older newer) := by
  have row (first : α) :
      Asks answer (newer.map (Prod.mk first)) (Gathered (fun _ => HoldsOne) newer)
        (newer.mapM (judge (noting answer) first)) := by
    rw [List.map_eq_flatMap]
    exact Asks.mapM (asks_judge first) newer
  have all := Asks.mapM row older
  constructor
  · intro asked pairings legals
    obtain ⟨table, gathered, ran⟩ := all.passes asked pairings legals
    exact ⟨table, gathered.table, ran⟩
  · exact all.stops

end StorageCompat.Alignment
