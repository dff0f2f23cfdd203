import StorageCompat.Proofs.Alignment.Cheapest

/-!
Which of several cheapest scripts is returned. Scripts are compared step by step from the end
backwards, a pairing before a deletion and a deletion before an addition, and of the cheapest ones
the first is returned. For a cheapest path has a cheapest path in front of its last step, and the
last step of a trail is of the preferred kind that reaches its fronts at the least cost.
-/

namespace StorageCompat.Alignment

variable {α β : Type}

/-- The place of a step among the kinds of steps, the preferred kind first. -/
def Step.rank : Step α β → Nat
  | .pair _ _ _ _ _ => 0
  | .delete _ _ => 1
  | .append _ _ => 2

/-- Compared from the end backwards, the first steps come before the second ones. -/
def Precedes (first second : List (Step α β)) : Prop :=
  first.reverse.map Step.rank < second.reverse.map Step.rank

structure IsCheapest (costs : Costs) (pairing : α → β → Pairing) (older : List α)
    (newer : List β) (steps : List (Step α β)) : Prop where
  script : IsScript pairing older newer steps
  least : ∀ others, IsScript pairing older newer others →
    total (Step.cost costs) steps ≤ total (Step.cost costs) others

theorem precedes_concat_iff (first second : List (Step α β)) (step step' : Step α β) :
    Precedes (first ++ [step]) (second ++ [step']) ↔
      step.rank < step'.rank ∨ step.rank = step'.rank ∧ Precedes first second := by
  simp only [Precedes, List.reverse_append, List.reverse_singleton, List.singleton_append,
    List.map_cons]
  exact List.cons_lt_cons_iff

namespace Trail

/-- How a trail reaches two fronts: by a last step to which no other step is preferred that would
cost no more. -/
inductive Chosen (costs : Costs) (pairing : α → β → Pairing) :
    List α → List β → Trail α β → Prop where
  | start : Chosen costs pairing [] [] .start
  | pair (older : α) (olders : List α) (newer : β) (newers : List β) :
      Chosen costs pairing (older :: olders) (newer :: newers)
        ((between costs pairing olders newers).extend costs
          (.pair (pairing older newer) olders.length older newers.length newer))
  | delete (older : α) (olders : List α) (newers : List β)
      (dearer : ∀ newer rest, newers = newer :: rest →
        (between costs pairing olders newers).cost + costs.delete <
          (between costs pairing olders rest).cost + costs.ofPairing (pairing older newer)) :
      Chosen costs pairing (older :: olders) newers
        ((between costs pairing olders newers).extend costs (.delete olders.length older))
  | append (olders : List α) (newer : β) (newers : List β)
      (dearer : ∀ older rest, olders = older :: rest →
        (between costs pairing olders newers).cost + costs.append <
            (between costs pairing rest newers).cost + costs.ofPairing (pairing older newer) ∧
          (between costs pairing olders newers).cost + costs.append <
            (between costs pairing rest (newer :: newers)).cost + costs.delete) :
      Chosen costs pairing olders (newer :: newers)
        ((between costs pairing olders newers).extend costs (.append newers.length newer))

theorem between_chosen (costs : Costs) (pairing : α → β → Pairing) (olders : List α)
    (newers : List β) :
    Chosen costs pairing olders newers (between costs pairing olders newers) := by
  cases olders with
  | nil =>
      cases newers with
      | nil =>
          rw [between]
          exact .start
      | cons newer newers =>
          rw [between]
          refine .append [] newer newers ?_
          rintro _ _ ⟨⟩
  | cons older olders =>
      cases newers with
      | nil =>
          rw [between]
          refine .delete older olders [] ?_
          rintro _ _ ⟨⟩
      | cons newer newers =>
          rw [between]
          obtain best | ⟨best, cheaper⟩ | ⟨best, cheaper, cheaper'⟩ := best_cases _ _ _
          · rw [best]
            exact .pair older olders newer newers
          · rw [best]
            refine .delete older olders (newer :: newers) ?_
            rintro _ _ ⟨⟩
            exact cheaper
          · rw [best]
            refine .append (older :: olders) newer newers ?_
            rintro _ _ ⟨⟩
            exact ⟨cheaper, cheaper'⟩

def Leads (trail : Trail α β) (steps : List (Step α β)) : Prop :=
  trail.steps.reverse = steps ∨ Precedes trail.steps.reverse steps

theorem leads_of_rank_lt (costs : Costs) (trail : Trail α β) (steps : List (Step α β))
    {step step' : Step α β} (preferred : step.rank < step'.rank) :
    (trail.extend costs step).Leads (steps ++ [step']) := by
  rw [Leads, extend_steps, List.reverse_cons, precedes_concat_iff]
  exact Or.inr (Or.inl preferred)

theorem Leads.extend {trail : Trail α β} {steps : List (Step α β)} (leads : trail.Leads steps)
    (costs : Costs) (step : Step α β) : (trail.extend costs step).Leads (steps ++ [step]) := by
  rw [Leads, extend_steps, List.reverse_cons, precedes_concat_iff]
  cases leads with
  | inl same => exact Or.inl (congrArg (· ++ [step]) same)
  | inr precedes => exact Or.inr (Or.inr ⟨rfl, precedes⟩)

section Between

variable (costs : Costs) (pairing : α → β → Pairing) (older : α) (olders : List α) (newer : β)
  (newers : List β) {steps : List (Step α β)}

/-- Where the trail costs as much as a pairing behind the trail before, it leads what ends with
that pairing. -/
theorem between_leads_pair (leads : (between costs pairing olders newers).Leads steps)
    (cheap : (between costs pairing olders newers).cost + costs.ofPairing (pairing older newer) ≤
      (between costs pairing (older :: olders) (newer :: newers)).cost) :
    (between costs pairing (older :: olders) (newer :: newers)).Leads
      (steps ++ [.pair (pairing older newer) olders.length older newers.length newer]) := by
  have chosen := between_chosen costs pairing (older :: olders) (newer :: newers)
  generalize between costs pairing (older :: olders) (newer :: newers) = trail at chosen cheap ⊢
  cases chosen with
  | pair => exact leads.extend costs _
  | delete _ _ _ dearer =>
      have cheaper := dearer newer newers rfl
      exact absurd cheap (Nat.not_le.2 cheaper)
  | append _ _ _ dearer =>
      have cheaper := (dearer older olders rfl).1
      exact absurd cheap (Nat.not_le.2 cheaper)

theorem between_leads_delete (leads : (between costs pairing olders newers).Leads steps)
    (cheap : (between costs pairing olders newers).cost + costs.delete ≤
      (between costs pairing (older :: olders) newers).cost) :
    (between costs pairing (older :: olders) newers).Leads
      (steps ++ [.delete olders.length older]) := by
  have chosen := between_chosen costs pairing (older :: olders) newers
  generalize between costs pairing (older :: olders) newers = trail at chosen cheap ⊢
  cases chosen with
  | pair => exact leads_of_rank_lt costs _ _ Nat.zero_lt_one
  | delete => exact leads.extend costs _
  | append _ _ _ dearer =>
      have cheaper := (dearer older olders rfl).2
      exact absurd cheap (Nat.not_le.2 cheaper)

/-- An addition comes last among the kinds of steps, so here the cost does not matter. -/
theorem between_leads_append (leads : (between costs pairing olders newers).Leads steps) :
    (between costs pairing olders (newer :: newers)).Leads
      (steps ++ [.append newers.length newer]) := by
  have chosen := between_chosen costs pairing olders (newer :: newers)
  generalize between costs pairing olders (newer :: newers) = trail at chosen ⊢
  cases chosen with
  | pair => exact leads_of_rank_lt costs _ _ Nat.zero_lt_two
  | delete => exact leads_of_rank_lt costs _ _ Nat.one_lt_two
  | append => exact leads.extend costs _

end Between

end Trail

/-- No path to two fronts precedes the trail between them, unless it costs more. -/
theorem Path.between_leads (costs : Costs) {pairing : α → β → Pairing} {older : List α}
    {newer : List β} {i j : Nat} {steps : List (Step α β)}
    (path : Path pairing older newer i j steps)
    (cheap : total (Step.cost costs) steps ≤
      (Trail.between costs pairing (older.take i).reverse (newer.take j).reverse).cost) :
    (Trail.between costs pairing (older.take i).reverse (newer.take j).reverse).Leads steps := by
  induction path with
  | start =>
      rw [List.take_zero, List.take_zero, List.reverse_nil, List.reverse_nil, Trail.between]
      exact Or.inl rfl
  | @pair i j steps first second before here there ih =>
      have bound := before.between_cost_le costs
      have bound' := Trail.between_cost_le_pair costs pairing first (older.take i).reverse second
        (newer.take j).reverse
      rw [front_succ here, front_succ there, total_concat, Step.cost_pair] at cheap
      have leads := Trail.between_leads_pair costs pairing first (older.take i).reverse second
        (newer.take j).reverse (ih (by omega)) (by omega)
      rw [front_length here, front_length there] at leads
      rw [front_succ here, front_succ there]
      exact leads
  | @delete i j steps first before here ih =>
      have bound := before.between_cost_le costs
      have bound' := Trail.between_cost_le_delete costs pairing first (older.take i).reverse
        (newer.take j).reverse
      rw [front_succ here, total_concat, Step.cost_delete] at cheap
      have leads := Trail.between_leads_delete costs pairing first (older.take i).reverse
        (newer.take j).reverse (ih (by omega)) (by omega)
      rw [front_length here] at leads
      rw [front_succ here]
      exact leads
  | @append i j steps second before there ih =>
      have bound' := Trail.between_cost_le_append costs pairing (older.take i).reverse second
        (newer.take j).reverse
      rw [front_succ there, total_concat, Step.cost_append] at cheap
      have leads := Trail.between_leads_append costs pairing (older.take i).reverse second
        (newer.take j).reverse (ih (by omega))
      rw [front_length there] at leads
      rw [front_succ there]
      exact leads

theorem isCheapest_cheapest (costs : Costs) (pairing : α → β → Pairing) (older : List α)
    (newer : List β) :
    IsCheapest costs pairing older newer (cheapest costs pairing older newer).steps where
  script := cheapest_isScript costs pairing older newer
  least := by
    intro others script
    rw [← cheapest_cost]
    exact cheapest_le costs script

theorem cheapest_precedes (costs : Costs) {pairing : α → β → Pairing} {older : List α}
    {newer : List β} {steps : List (Step α β)}
    (cheap : IsCheapest costs pairing older newer steps)
    (other : steps ≠ (cheapest costs pairing older newer).steps) :
    Precedes (cheapest costs pairing older newer).steps steps := by
  have bound := cheap.least _ (cheapest_isScript costs pairing older newer)
  have leads := cheap.script.between_leads costs
  rw [← cheapest_cost] at bound
  rw [List.take_length, List.take_length] at leads
  rw [cheapest_eq_between] at bound other ⊢
  exact (leads bound).resolve_left (Ne.symm other)

variable {m : Type → Type} [Monad m] [LawfulMonad m]

/-- The steps that are returned are those of the cheapest script that precedes all others. -/
theorem align_precedes (costs : Costs) (compare : α → β → m Answer)
    (pairing : α → β → Pairing) (older : List α) (newer : List β)
    (answers : Answers compare pairing older newer) :
    ∃ script, Returns costs compare older newer script ∧
      IsCheapest costs pairing older newer script.steps ∧
      ∀ steps, IsCheapest costs pairing older newer steps → steps ≠ script.steps →
        Precedes script.steps steps := by
  refine ⟨cheapest costs pairing older newer, ?_, ?_, ?_⟩
  · exact returns_cheapest costs compare pairing older newer answers
  · exact isCheapest_cheapest costs pairing older newer
  · intro steps cheap other
    exact cheapest_precedes costs cheap other

theorem align_precedes_letters :
    Answers countLetters pairLetters ['a', 'b', 'c'] ['b', 'c', 'd', 'e'] ∧
    ∃ script, Returns .standard countLetters ['a', 'b', 'c'] ['b', 'c', 'd', 'e'] script ∧
      IsCheapest .standard pairLetters ['a', 'b', 'c'] ['b', 'c', 'd', 'e'] script.steps ∧
      ∀ steps, IsCheapest .standard pairLetters ['a', 'b', 'c'] ['b', 'c', 'd', 'e'] steps →
        steps ≠ script.steps → Precedes script.steps steps := by
  have answers := countLetters_answers ['a', 'b', 'c'] ['b', 'c', 'd', 'e']
  exact ⟨answers, align_precedes .standard countLetters pairLetters _ _ answers⟩

end StorageCompat.Alignment
