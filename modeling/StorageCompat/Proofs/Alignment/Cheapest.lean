import StorageCompat.Proofs.Alignment.Answers
import StorageCompat.Proofs.Alignment.Paths

/-!
What an alignment returns. Its steps are a script: in order, complete on either side, and true
to the sequences and to the comparison. No script is cheaper. Both follow from two facts about
the trails of the grid: a trail is a path to its fronts, and no path to them costs less.
-/

namespace StorageCompat.Alignment

variable {α β : Type}

theorem getElem?_front (front : List α) (next : α) (later : List α) :
    (front.reverse ++ next :: later)[front.length]? = some next := by
  rw [← List.length_reverse, List.getElem?_append_right (Nat.le_refl _), Nat.sub_self]
  rfl

theorem front_append (front : List α) (next : α) (later : List α) :
    (next :: front).reverse ++ later = front.reverse ++ next :: later := by
  rw [List.reverse_cons, List.append_assoc]
  rfl

theorem front_succ {sequence : List α} {i : Nat} {element : α}
    (here : sequence[i]? = some element) :
    (sequence.take (i + 1)).reverse = element :: (sequence.take i).reverse := by
  rw [List.take_add_one, here, Option.toList_some, List.reverse_append]
  rfl

theorem front_length {sequence : List α} {i : Nat} {element : α}
    (here : sequence[i]? = some element) : (sequence.take i).reverse.length = i := by
  obtain ⟨known, -⟩ := List.getElem?_eq_some_iff.1 here
  rw [List.length_reverse, List.length_take_of_le (Nat.le_of_lt known)]

/-- The trail is a path to the fronts of `i` and of `j` elements, and names what it costs. -/
structure Trail.Reaches (costs : Costs) (pairing : α → β → Pairing) (older : List α)
    (newer : List β) (i j : Nat) (trail : Trail α β) : Prop where
  path : Path pairing older newer i j trail.steps.reverse
  cost_eq : trail.cost = total (Step.cost costs) trail.steps.reverse

namespace Trail.Reaches

variable {costs : Costs} {pairing : α → β → Pairing} {older : List α} {newer : List β}
  {i j : Nat} {trail : Trail α β}

theorem start : (Trail.start : Trail α β).Reaches costs pairing older newer 0 0 :=
  ⟨.start, rfl⟩

theorem extend {k l : Nat} {step : Step α β}
    (reaches : trail.Reaches costs pairing older newer i j)
    (path : Path pairing older newer k l (trail.steps.reverse ++ [step])) :
    (trail.extend costs step).Reaches costs pairing older newer k l where
  path := by
    rw [extend_steps, List.reverse_cons]
    exact path
  cost_eq := by
    rw [extend_cost, extend_steps, List.reverse_cons, total_concat, reaches.cost_eq]

theorem pair {first : α} {second : β} (reaches : trail.Reaches costs pairing older newer i j)
    (here : older[i]? = some first) (there : newer[j]? = some second) :
    (trail.extend costs (.pair (pairing first second) i first j second)).Reaches costs pairing
      older newer (i + 1) (j + 1) :=
  reaches.extend (reaches.path.pair here there)

theorem delete {first : α} (reaches : trail.Reaches costs pairing older newer i j)
    (here : older[i]? = some first) :
    (trail.extend costs (.delete i first)).Reaches costs pairing older newer (i + 1) j :=
  reaches.extend (reaches.path.delete here)

theorem append {second : β} (reaches : trail.Reaches costs pairing older newer i j)
    (there : newer[j]? = some second) :
    (trail.extend costs (.append j second)).Reaches costs pairing older newer i (j + 1) :=
  reaches.extend (reaches.path.append there)

end Trail.Reaches

/-- The trail between two fronts is a path to them, whatever the sequences have behind. -/
theorem Trail.between_reaches (costs : Costs) (pairing : α → β → Pairing)
    (olders laterOlders : List α) (newers laterNewers : List β) :
    (between costs pairing olders newers).Reaches costs pairing
      (olders.reverse ++ laterOlders) (newers.reverse ++ laterNewers) olders.length
      newers.length := by
  induction olders, newers using between.induct generalizing laterOlders laterNewers with
  | case1 =>
      rw [between]
      exact Reaches.start
  | case2 older olders ih =>
      rw [between, front_append]
      exact (ih _ laterNewers).delete (getElem?_front olders older laterOlders)
  | case3 newer newers ih =>
      rw [between, front_append]
      exact (ih laterOlders _).append (getElem?_front newers newer laterNewers)
  | case4 older olders newer newers paired deleted appended =>
      have here := getElem?_front olders older laterOlders
      have there := getElem?_front newers newer laterNewers
      have pairs := (paired (older :: laterOlders) (newer :: laterNewers)).pair here there
      have deletes := (deleted (older :: laterOlders) laterNewers).delete here
      have appends := (appended laterOlders (newer :: laterNewers)).append there
      rw [front_append] at deletes appends
      rw [between, front_append, front_append]
      rcases best_eq _ _ _ with best | best | best
      · rw [best]
        exact pairs
      · rw [best]
        exact deletes
      · rw [best]
        exact appends

theorem Path.between_cost_le (costs : Costs) {pairing : α → β → Pairing} {older : List α}
    {newer : List β} {i j : Nat} {steps : List (Step α β)}
    (path : Path pairing older newer i j steps) :
    (Trail.between costs pairing (older.take i).reverse (newer.take j).reverse).cost ≤
      total (Step.cost costs) steps := by
  induction path with
  | start =>
      rw [List.take_zero, List.take_zero, List.reverse_nil, List.reverse_nil, Trail.between]
      exact Nat.le_refl _
  | pair before here there ih =>
      rw [front_succ here, front_succ there, total_concat]
      calc
        _ ≤ _ + costs.ofPairing (pairing _ _) :=
            Trail.between_cost_le_pair costs pairing _ _ _ _
        _ ≤ _ := Nat.add_le_add_right ih _
  | delete before here ih =>
      rw [front_succ here, total_concat]
      calc
        _ ≤ _ + costs.delete := Trail.between_cost_le_delete costs pairing _ _ _
        _ ≤ _ := Nat.add_le_add_right ih _
  | append before there ih =>
      rw [front_succ there, total_concat]
      calc
        _ ≤ _ + costs.append := Trail.between_cost_le_append costs pairing _ _ _
        _ ≤ _ := Nat.add_le_add_right ih _

theorem between_reaches_whole (costs : Costs) (pairing : α → β → Pairing) (older : List α)
    (newer : List β) :
    (Trail.between costs pairing older.reverse newer.reverse).Reaches costs pairing older
      newer older.length newer.length := by
  have reaches :=
    Trail.between_reaches costs pairing older.reverse [] newer.reverse []
  simpa only [List.reverse_reverse, List.append_nil, List.length_reverse] using reaches

theorem cheapest_isScript (costs : Costs) (pairing : α → β → Pairing) (older : List α)
    (newer : List β) :
    IsScript pairing older newer (cheapest costs pairing older newer).steps := by
  rw [cheapest_eq_between]
  exact (between_reaches_whole costs pairing older newer).path

theorem cheapest_cost (costs : Costs) (pairing : α → β → Pairing) (older : List α)
    (newer : List β) :
    (cheapest costs pairing older newer).cost =
      total (Step.cost costs) (cheapest costs pairing older newer).steps := by
  rw [cheapest_eq_between]
  exact (between_reaches_whole costs pairing older newer).cost_eq

theorem cheapest_le (costs : Costs) {pairing : α → β → Pairing} {older : List α}
    {newer : List β} {steps : List (Step α β)} (script : IsScript pairing older newer steps) :
    (cheapest costs pairing older newer).cost ≤ total (Step.cost costs) steps := by
  have bound := script.between_cost_le costs
  rw [List.take_length, List.take_length] at bound
  rw [cheapest_eq_between]
  exact bound

theorem cheapest_cost_mono {costs costs' : Costs}
    (cheaper : ∀ action, costs.ofAction action ≤ costs'.ofAction action)
    (pairing : α → β → Pairing) (older : List α) (newer : List β) :
    (cheapest costs pairing older newer).cost ≤ (cheapest costs' pairing older newer).cost :=
  calc
    _ ≤ total (Step.cost costs) (cheapest costs' pairing older newer).steps :=
      cheapest_le costs (cheapest_isScript costs' pairing older newer)
    _ ≤ total (Step.cost costs') (cheapest costs' pairing older newer).steps :=
      total_le_total (fun step => cheaper step.action) _
    _ = _ := (cheapest_cost costs' pairing older newer).symm

variable {m : Type → Type} [Monad m]

/-- Aligning asks about each pair, row by row, and then returns the script, unless what its
steps cost together is too long to be written. -/
structure Returns (costs : Costs) (compare : α → β → m Answer) (older : List α)
    (newer : List β) (script : Script α β) : Prop where
  align_eq : align costs compare older newer =
    askAll compare older newer >>= fun _ => conclude script
  cost_eq : script.cost = total (Step.cost costs) script.steps

variable [LawfulMonad m]

theorem returns_cheapest (costs : Costs) (compare : α → β → m Answer)
    (pairing : α → β → Pairing) (older : List α) (newer : List β)
    (answers : Answers compare pairing older newer) :
    Returns costs compare older newer (cheapest costs pairing older newer) :=
  ⟨align_eq costs compare pairing older newer answers, cheapest_cost costs pairing older newer⟩

def pairLetters (first second : Char) : Pairing :=
  if first = second then .equal else .rename

def countLetters (first second : Char) : StateM Nat Answer := do
  modify (· + 1)
  return .action (.pair (pairLetters first second))

theorem countLetters_answers (older newer : List Char) :
    Answers countLetters pairLetters older newer := by
  intro first _ second _
  rfl

/-- The steps that are returned are a script, and no script between the two sequences costs
less. -/
theorem align_optimal (costs : Costs) (compare : α → β → m Answer)
    (pairing : α → β → Pairing) (older : List α) (newer : List β)
    (answers : Answers compare pairing older newer) :
    ∃ script, Returns costs compare older newer script ∧
      IsScript pairing older newer script.steps ∧
      ∀ steps, IsScript pairing older newer steps →
        total (Step.cost costs) script.steps ≤ total (Step.cost costs) steps := by
  refine ⟨cheapest costs pairing older newer, ?_, ?_, ?_⟩
  · exact returns_cheapest costs compare pairing older newer answers
  · exact cheapest_isScript costs pairing older newer
  · intro steps script
    rw [← cheapest_cost]
    exact cheapest_le costs script

theorem align_optimal_letters :
    Answers countLetters pairLetters ['a', 'b', 'c'] ['b', 'c', 'd', 'e'] ∧
    ∃ script, Returns .standard countLetters ['a', 'b', 'c'] ['b', 'c', 'd', 'e'] script ∧
      IsScript pairLetters ['a', 'b', 'c'] ['b', 'c', 'd', 'e'] script.steps ∧
      ∀ steps, IsScript pairLetters ['a', 'b', 'c'] ['b', 'c', 'd', 'e'] steps →
        total (Step.cost .standard) script.steps ≤ total (Step.cost .standard) steps := by
  have answers := countLetters_answers ['a', 'b', 'c'] ['b', 'c', 'd', 'e']
  exact ⟨answers, align_optimal .standard countLetters pairLetters _ _ answers⟩

/-- The steps that are returned take every element of either sequence, in order, and each of
them is true to the sequences and to the comparison. -/
theorem align_faithful (costs : Costs) (compare : α → β → m Answer)
    (pairing : α → β → Pairing) (older : List α) (newer : List β)
    (answers : Answers compare pairing older newer) :
    ∃ script, Returns costs compare older newer script ∧
      script.steps.filterMap Step.olderIndex? = List.range older.length ∧
      script.steps.filterMap Step.newerIndex? = List.range newer.length ∧
      ∀ step ∈ script.steps, step.Faithful pairing older newer := by
  have path := cheapest_isScript costs pairing older newer
  refine ⟨cheapest costs pairing older newer, ?_, ?_, ?_, ?_⟩
  · exact returns_cheapest costs compare pairing older newer answers
  · exact path.olderIndices
  · exact path.newerIndices
  · exact path.faithful

theorem align_faithful_letters :
    Answers countLetters pairLetters ['a', 'b', 'c'] ['b', 'c', 'd', 'e'] ∧
    ∃ script, Returns .standard countLetters ['a', 'b', 'c'] ['b', 'c', 'd', 'e'] script ∧
      script.steps.filterMap Step.olderIndex? = List.range 3 ∧
      script.steps.filterMap Step.newerIndex? = List.range 4 ∧
      ∀ step ∈ script.steps,
        step.Faithful pairLetters ['a', 'b', 'c'] ['b', 'c', 'd', 'e'] := by
  have answers := countLetters_answers ['a', 'b', 'c'] ['b', 'c', 'd', 'e']
  exact ⟨answers, align_faithful .standard countLetters pairLetters _ _ answers⟩

end StorageCompat.Alignment
