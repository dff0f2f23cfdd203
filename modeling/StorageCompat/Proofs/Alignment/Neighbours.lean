import StorageCompat.Proofs.Alignment.InPlace

/-!
Deletions and additions next to each other. No addition stands right behind a deletion, and right
in front of one only where pairing the two elements would cost more. For what comes before a step
of a trail is a trail itself, and so each of two neighbours was chosen over the other kinds. Where a
replacement costs no more than both, they are never neighbours, and so steps that take one element
of either side are one step.
-/

namespace StorageCompat.Alignment

variable {α β : Type}

/-- One of the steps deletes and the other one adds. -/
def Opposed (first second : Step α β) : Prop :=
  (first.action = .delete ∧ second.action = .append) ∨
    (first.action = .append ∧ second.action = .delete)

theorem Step.exists_eq_delete {step : Step α β} (deletes : step.action = .delete) :
    ∃ i first, step = .delete i first := by
  cases step with
  | pair => cases deletes
  | delete i first => exact ⟨i, first, rfl⟩
  | append => cases deletes

theorem Step.exists_eq_append {step : Step α β} (appends : step.action = .append) :
    ∃ j second, step = .append j second := by
  cases step with
  | pair => cases appends
  | delete => cases appends
  | append j second => exact ⟨j, second, rfl⟩

theorem eq_nil_of_indices {steps : List (Step α β)}
    (olders : steps.filterMap Step.olderIndex? = [])
    (newers : steps.filterMap Step.newerIndex? = []) : steps = [] := by
  cases steps with
  | nil => rfl
  | cons step rest => cases step <;> first | cases olders | cases newers

theorem exists_append_of_indices {steps : List (Step α β)} {j : Nat}
    (olders : steps.filterMap Step.olderIndex? = [])
    (newers : steps.filterMap Step.newerIndex? = [j]) : ∃ second, steps = [.append j second] := by
  cases steps with
  | nil => cases newers
  | cons step rest =>
      cases step with
      | pair => cases olders
      | delete => cases olders
      | append j' second =>
          obtain ⟨rfl, later⟩ := List.cons_eq_cons.1 newers
          exact ⟨second, congrArg (_ :: ·) (eq_nil_of_indices olders later)⟩

theorem exists_delete_of_indices {steps : List (Step α β)} {i : Nat}
    (olders : steps.filterMap Step.olderIndex? = [i])
    (newers : steps.filterMap Step.newerIndex? = []) : ∃ first, steps = [.delete i first] := by
  cases steps with
  | nil => cases olders
  | cons step rest =>
      cases step with
      | pair => cases newers
      | delete i' first =>
          obtain ⟨rfl, later⟩ := List.cons_eq_cons.1 olders
          exact ⟨first, congrArg (_ :: ·) (eq_nil_of_indices later newers)⟩
      | append => cases newers

/-- Steps that take one element of either side pair the two, or take one after the other. -/
theorem exists_steps_of_indices {steps : List (Step α β)} {i j : Nat}
    (olders : steps.filterMap Step.olderIndex? = [i])
    (newers : steps.filterMap Step.newerIndex? = [j]) :
    (∃ compared first second, steps = [.pair compared i first j second]) ∨
      ∃ first second, steps = [first, second] ∧ Opposed first second := by
  cases steps with
  | nil => cases olders
  | cons step rest =>
      cases step with
      | pair compared i' first j' second =>
          obtain ⟨rfl, laterOlders⟩ := List.cons_eq_cons.1 olders
          obtain ⟨rfl, laterNewers⟩ := List.cons_eq_cons.1 newers
          obtain rfl := eq_nil_of_indices laterOlders laterNewers
          exact Or.inl ⟨compared, first, second, rfl⟩
      | delete i' first =>
          obtain ⟨rfl, later⟩ := List.cons_eq_cons.1 olders
          obtain ⟨second, rfl⟩ := exists_append_of_indices later newers
          exact Or.inr ⟨_, _, rfl, Or.inl ⟨rfl, rfl⟩⟩
      | append j' second =>
          obtain ⟨rfl, later⟩ := List.cons_eq_cons.1 newers
          have behind : rest.filterMap Step.olderIndex? = [i] := olders
          obtain ⟨first, rfl⟩ := exists_delete_of_indices behind later
          exact Or.inr ⟨_, _, rfl, Or.inr ⟨rfl, rfl⟩⟩

namespace Trail

section Between

variable {costs : Costs} {pairing : α → β → Pairing} {olders : List α} {newers : List β}

theorem exists_between_of_cons {last : Step α β} {before : List (Step α β)}
    (steps : (between costs pairing olders newers).steps = last :: before) :
    ∃ olders' newers', (between costs pairing olders' newers').steps = before := by
  have chosen := between_chosen costs pairing olders newers
  generalize between costs pairing olders newers = trail at chosen steps
  cases chosen with
  | start => cases steps
  | pair older olders newer newers => exact ⟨olders, newers, List.tail_eq_of_cons_eq steps⟩
  | delete older olders newers => exact ⟨olders, newers, List.tail_eq_of_cons_eq steps⟩
  | append olders newer newers => exact ⟨olders, newers, List.tail_eq_of_cons_eq steps⟩

theorem exists_between_of_suffix {steps before : List (Step α β)}
    (trail : (between costs pairing olders newers).steps = steps) (suffix : before <:+ steps) :
    ∃ olders' newers', (between costs pairing olders' newers').steps = before := by
  induction steps generalizing olders newers with
  | nil =>
      rw [List.suffix_nil] at suffix
      exact ⟨olders, newers, trail.trans suffix.symm⟩
  | cons last steps ih =>
      cases List.suffix_cons_iff.1 suffix with
      | inl whole => exact ⟨olders, newers, trail.trans whole.symm⟩
      | inr suffix =>
          obtain ⟨olders', newers', shorter⟩ := exists_between_of_cons trail
          exact ih shorter suffix

variable {i j : Nat} {first : α} {second : β} {before : List (Step α β)}

/-- A trail ends with an addition only where a deletion at the end would cost more. -/
theorem exists_of_append
    (steps : (between costs pairing olders newers).steps = .append j second :: before) :
    ∃ rest, newers = second :: rest ∧ (between costs pairing olders rest).steps = before ∧
      (between costs pairing olders newers).cost =
        (between costs pairing olders rest).cost + costs.append ∧
      ∀ older others, olders = older :: others →
        (between costs pairing olders rest).cost + costs.append <
          (between costs pairing others (second :: rest)).cost + costs.delete := by
  have chosen := between_chosen costs pairing olders newers
  generalize between costs pairing olders newers = trail at chosen steps ⊢
  cases chosen with
  | start => cases steps
  | pair => cases steps
  | delete => cases steps
  | append olders newer rest dearer =>
      cases List.head_eq_of_cons_eq steps
      refine ⟨rest, rfl, List.tail_eq_of_cons_eq steps, rfl, ?_⟩
      intro older others parts
      exact (dearer older others parts).2

/-- A trail ends with a deletion only where a pairing at the end would cost more. -/
theorem exists_of_delete
    (steps : (between costs pairing olders newers).steps = .delete i first :: before) :
    ∃ rest, olders = first :: rest ∧ (between costs pairing rest newers).steps = before ∧
      (between costs pairing olders newers).cost =
        (between costs pairing rest newers).cost + costs.delete ∧
      ∀ newer others, newers = newer :: others →
        (between costs pairing rest newers).cost + costs.delete <
          (between costs pairing rest others).cost + costs.ofPairing (pairing first newer) := by
  have chosen := between_chosen costs pairing olders newers
  generalize between costs pairing olders newers = trail at chosen steps ⊢
  cases chosen with
  | start => cases steps
  | pair => cases steps
  | append => cases steps
  | delete older rest newers dearer =>
      cases List.head_eq_of_cons_eq steps
      exact ⟨rest, rfl, List.tail_eq_of_cons_eq steps, rfl, dearer⟩

/-- A deletion that an addition follows could have followed the addition. -/
theorem between_ne_append_delete :
    (between costs pairing olders newers).steps ≠
      .append j second :: .delete i first :: before := by
  intro steps
  obtain ⟨rest, rfl, steps, -, dearer⟩ := exists_of_append steps
  obtain ⟨others, rfl, -, cost, -⟩ := exists_of_delete steps
  have cheaper := dearer first others rfl
  have bound := between_cost_le_append costs pairing others second rest
  omega

theorem lt_ofPairing_of_delete_append
    (steps : (between costs pairing olders newers).steps =
      .delete i first :: .append j second :: before) :
    costs.delete + costs.append < costs.ofPairing (pairing first second) := by
  obtain ⟨others, rfl, steps, -, dearer⟩ := exists_of_delete steps
  obtain ⟨rest, rfl, -, cost, -⟩ := exists_of_append steps
  have cheaper := dearer second rest rfl
  omega

end Between

end Trail

section Cheapest

variable {costs : Costs} {pairing : α → β → Pairing} {older : List α} {newer : List β}

/-- Neighbours in the cheapest script are the last two steps of a trail. -/
theorem exists_between_of_neighbours {first second : Step α β}
    (neighbours : [first, second] <:+: (cheapest costs pairing older newer).steps) :
    ∃ olders newers before,
      (Trail.between costs pairing olders newers).steps = second :: first :: before := by
  rw [cheapest_eq_between, ← List.reverse_infix, List.reverse_reverse,
    List.infix_iff_prefix_suffix] at neighbours
  obtain ⟨steps, ⟨before, parts⟩, suffix⟩ := neighbours
  obtain ⟨olders, newers, trail⟩ := Trail.exists_between_of_suffix rfl suffix
  exact ⟨olders, newers, before, trail.trans parts.symm⟩

theorem not_delete_append (i : Nat) (first : α) (j : Nat) (second : β) :
    ¬[.delete i first, .append j second] <:+: (cheapest costs pairing older newer).steps := by
  intro neighbours
  obtain ⟨_, _, _, steps⟩ := exists_between_of_neighbours neighbours
  exact Trail.between_ne_append_delete steps

theorem lt_ofPairing_of_append_delete {i j : Nat} {first : α} {second : β}
    (neighbours : [.append j second, .delete i first] <:+:
      (cheapest costs pairing older newer).steps) :
    costs.delete + costs.append < costs.ofPairing (pairing first second) := by
  obtain ⟨_, _, _, steps⟩ := exists_between_of_neighbours neighbours
  exact Trail.lt_ofPairing_of_delete_append steps

/-- Where renaming costs more than both together, an addition does stand in front of a deletion. -/
example : (cheapest { rename := 3, replace := 4 } pairLetters ['a'] ['b']).steps =
    [.append 0 'b', .delete 0 'a'] := by decide

/-- No deletion and addition are neighbours where a replacement costs no more than both. -/
theorem not_opposed (cheap : costs.replace ≤ costs.delete + costs.append) {first second : Step α β}
    (neighbours : [first, second] <:+: (cheapest costs pairing older newer).steps) :
    ¬Opposed first second := by
  intro opposed
  cases opposed with
  | inl actions =>
      obtain ⟨i, removed, rfl⟩ := Step.exists_eq_delete actions.1
      obtain ⟨j, added, rfl⟩ := Step.exists_eq_append actions.2
      exact not_delete_append i removed j added neighbours
  | inr actions =>
      obtain ⟨j, added, rfl⟩ := Step.exists_eq_append actions.1
      obtain ⟨i, removed, rfl⟩ := Step.exists_eq_delete actions.2
      have dear := lt_ofPairing_of_append_delete neighbours
      have bound := costs.ofPairing_le_replace (pairing removed added)
      omega

theorem getElem?_of_append_delete {i j : Nat} {first : α} {second : β}
    (neighbours : [.append j second, .delete i first] <:+:
      (cheapest costs pairing older newer).steps) :
    older[i]? = some first ∧ newer[j]? = some second := by
  have faithful := (cheapest_isScript costs pairing older newer).faithful
  have deletes := faithful (.delete i first) (neighbours.subset (by simp))
  have appends := faithful (.append j second) (neighbours.subset (by simp))
  exact ⟨deletes.older_element.symm, appends.newer_element.symm⟩

/-- Steps that take one element of either side are one step, which pairs the two. -/
theorem eq_pair_of_indices (cheap : costs.replace ≤ costs.delete + costs.append)
    {steps : List (Step α β)} {i j : Nat}
    (inside : steps <:+: (cheapest costs pairing older newer).steps)
    (olders : steps.filterMap Step.olderIndex? = [i])
    (newers : steps.filterMap Step.newerIndex? = [j]) :
    ∃ first second, older[i]? = some first ∧ newer[j]? = some second ∧
      steps = [.pair (pairing first second) i first j second] := by
  obtain ⟨compared, first, second, rfl⟩ | ⟨first, second, rfl, opposed⟩ :=
    exists_steps_of_indices olders newers
  · have faithful := (cheapest_isScript costs pairing older newer).faithful _
      (inside.subset List.mem_cons_self)
    obtain ⟨here, there⟩ := And.intro faithful.older_element faithful.newer_element
    obtain ⟨first', second', here', there', same⟩ := faithful.compared i j rfl rfl
    obtain rfl : first = first' := Option.some.inj (here.trans here')
    obtain rfl : second = second' := Option.some.inj (there.trans there')
    obtain rfl : compared = pairing first second := Action.pair.inj same
    exact ⟨first, second, here', there', rfl⟩
  · exact absurd opposed (not_opposed cheap inside)

end Cheapest

variable {m : Type → Type} [Monad m] [LawfulMonad m]

/-- In the script that is returned no addition stands right behind a deletion, and a deletion right
behind an addition only where pairing their elements costs more than both. Where a replacement costs
no more, they are never neighbours, and a change in place is one step: steps that take one element
of either side pair the two, and sequences that are equal but at one place are paired place by
place. -/
theorem align_neighbours (costs : Costs) (compare : α → β → m Answer)
    (pairing : α → β → Pairing) (older : List α) (newer : List β)
    (answers : Answers compare pairing older newer) :
    ∃ script, Returns costs compare older newer script ∧
      IsScript pairing older newer script.steps ∧
      (∀ i first j second, ¬[.delete i first, .append j second] <:+: script.steps) ∧
      (∀ j second i first, [.append j second, .delete i first] <:+: script.steps →
        (older[i]? = some first ∧ newer[j]? = some second) ∧
          costs.delete + costs.append < costs.ofPairing (pairing first second)) ∧
      (costs.replace ≤ costs.delete + costs.append →
        (∀ first second, [first, second] <:+: script.steps → ¬Opposed first second) ∧
        (∀ steps i j, steps <:+: script.steps → steps.filterMap Step.olderIndex? = [i] →
          steps.filterMap Step.newerIndex? = [j] →
            ∃ first second, older[i]? = some first ∧ newer[j]? = some second ∧
              steps = [Step.pair (pairing first second) i first j second]) ∧
        ∀ place, EqualButAt place pairing older newer →
          script.steps.length = older.length ∧
            ∀ i first second, older[i]? = some first → newer[i]? = some second →
              script.steps[i]? = some (Step.pair (pairing first second) i first i second)) := by
  refine ⟨cheapest costs pairing older newer, ?_, ?_, ?_, ?_, ?_⟩
  · exact returns_cheapest costs compare pairing older newer answers
  · exact cheapest_isScript costs pairing older newer
  · exact not_delete_append
  · intro j second i first neighbours
    exact ⟨getElem?_of_append_delete neighbours, lt_ofPairing_of_append_delete neighbours⟩
  · intro cheap
    refine ⟨fun first second => not_opposed cheap, fun steps i j => eq_pair_of_indices cheap, ?_⟩
    intro place equal
    rw [equal.cheapest_steps_eq cheap]
    refine ⟨length_inPlace equal.length_eq, ?_⟩
    intro i first second here there
    exact getElem?_inPlace here there

/-- Under the standard costs a replacement costs as much as a deletion and an addition. -/
theorem align_neighbours_letters :
    Answers countLetters pairLetters ['a', 'b', 'c'] ['a', 'x', 'c'] ∧
    Costs.standard.replace ≤ Costs.standard.delete + Costs.standard.append ∧
    EqualButAt 1 pairLetters ['a', 'b', 'c'] ['a', 'x', 'c'] ∧
    ∃ script, Returns .standard countLetters ['a', 'b', 'c'] ['a', 'x', 'c'] script ∧
      IsScript pairLetters ['a', 'b', 'c'] ['a', 'x', 'c'] script.steps ∧
      (∀ first second, [first, second] <:+: script.steps → ¬Opposed first second) ∧
      script.steps.length = 3 ∧ script.steps[1]? = some (Step.pair .rename 1 'b' 1 'x') := by
  have answers := countLetters_answers ['a', 'b', 'c'] ['a', 'x', 'c']
  have cheap : Costs.standard.replace ≤ Costs.standard.delete + Costs.standard.append := by decide
  have equal : EqualButAt 1 pairLetters ['a', 'b', 'c'] ['a', 'x', 'c'] := by
    refine ⟨rfl, ?_⟩
    intro i first second apart here there
    match i with
    | 0 => cases here; cases there; rfl
    | 1 => exact absurd rfl apart
    | 2 => cases here; cases there; rfl
    | i + 3 => cases here
  obtain ⟨script, returns, complete, -, -, inPlace⟩ :=
    align_neighbours .standard countLetters pairLetters _ _ answers
  obtain ⟨apart, -, paired⟩ := inPlace cheap
  obtain ⟨length, steps⟩ := paired 1 equal
  exact ⟨answers, cheap, equal, script, returns, complete, apart, length, steps 1 _ _ rfl rfl⟩

end StorageCompat.Alignment
