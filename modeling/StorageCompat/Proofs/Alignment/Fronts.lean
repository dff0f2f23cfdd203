import StorageCompat.Alignment

/-!
The grid by its recurrence. A front of a sequence is written with its last element first, so
that a longer front is a `cons` and the places of its elements are the lengths of what follows
them. The trail between two fronts is the best of the trails that reach them in one step, and
the rows of the grid hold exactly these trails.
-/

namespace StorageCompat.Alignment

variable {α β : Type}

namespace Trail

/-- The trail to two fronts, each with its last element first. -/
def between (costs : Costs) (pairing : α → β → Pairing) : List α → List β → Trail α β
  | [], [] => .start
  | older :: olders, [] =>
      (between costs pairing olders []).extend costs (.delete olders.length older)
  | [], newer :: newers =>
      (between costs pairing [] newers).extend costs (.append newers.length newer)
  | older :: olders, newer :: newers =>
      best
        ((between costs pairing olders newers).extend costs
          (.pair (pairing older newer) olders.length older newers.length newer))
        ((between costs pairing olders (newer :: newers)).extend costs
          (.delete olders.length older))
        ((between costs pairing (older :: olders) newers).extend costs
          (.append newers.length newer))
  termination_by olders newers => olders.length + newers.length

@[simp] theorem extend_cost (costs : Costs) (trail : Trail α β) (step : Step α β) :
    (trail.extend costs step).cost = trail.cost + step.cost costs := rfl

@[simp] theorem extend_steps (costs : Costs) (trail : Trail α β) (step : Step α β) :
    (trail.extend costs step).steps = step :: trail.steps := rfl

/-- The best of three trails is one of them, and cheaper than those that come before it. -/
theorem best_cases (paired deleted appended : Trail α β) :
    best paired deleted appended = paired ∨
      (best paired deleted appended = deleted ∧ deleted.cost < paired.cost) ∨
      (best paired deleted appended = appended ∧ appended.cost < paired.cost ∧
        appended.cost < deleted.cost) := by
  unfold best
  split
  case isTrue cheap => exact Or.inl rfl
  case isFalse dear =>
    split
    case isTrue cheap => exact Or.inr (Or.inl ⟨rfl, by omega⟩)
    case isFalse dear' => exact Or.inr (Or.inr ⟨rfl, by omega, by omega⟩)

theorem best_eq (paired deleted appended : Trail α β) :
    best paired deleted appended = paired ∨ best paired deleted appended = deleted ∨
      best paired deleted appended = appended := by
  obtain best | ⟨best, -⟩ | ⟨best, -⟩ := best_cases paired deleted appended
  · exact Or.inl best
  · exact Or.inr (Or.inl best)
  · exact Or.inr (Or.inr best)

theorem best_cost_le (paired deleted appended : Trail α β) :
    (best paired deleted appended).cost ≤ paired.cost ∧
      (best paired deleted appended).cost ≤ deleted.cost ∧
      (best paired deleted appended).cost ≤ appended.cost := by
  unfold best
  split
  · omega
  · split <;> omega

/-- No trail is cheaper than the one between two fronts if it reaches them by a pairing from
the trail before. -/
theorem between_cost_le_pair (costs : Costs) (pairing : α → β → Pairing) (older : α)
    (olders : List α) (newer : β) (newers : List β) :
    (between costs pairing (older :: olders) (newer :: newers)).cost ≤
      (between costs pairing olders newers).cost + costs.ofPairing (pairing older newer) := by
  rw [between]
  exact (best_cost_le _ _ _).1

theorem between_cost_le_delete (costs : Costs) (pairing : α → β → Pairing) (older : α)
    (olders : List α) (newers : List β) :
    (between costs pairing (older :: olders) newers).cost ≤
      (between costs pairing olders newers).cost + costs.delete := by
  cases newers with
  | nil =>
      rw [between]
      exact Nat.le_refl _
  | cons newer newers =>
      rw [between]
      exact (best_cost_le _ _ _).2.1

theorem between_cost_le_append (costs : Costs) (pairing : α → β → Pairing)
    (olders : List α) (newer : β) (newers : List β) :
    (between costs pairing olders (newer :: newers)).cost ≤
      (between costs pairing olders newers).cost + costs.append := by
  cases olders with
  | nil =>
      rw [between]
      exact Nat.le_refl _
  | cons older olders =>
      rw [between]
      exact (best_cost_le _ _ _).2.2

end Trail

namespace Row

def beyond (costs : Costs) (pairing : α → β → Pairing) (olders : List α) :
    (passed rest : List β) → List (Trail α β)
  | _, [] => []
  | passed, newer :: rest =>
      .between costs pairing olders (newer :: passed) ::
        beyond costs pairing olders (newer :: passed) rest

def along (costs : Costs) (pairing : α → β → Pairing) (olders : List α) (newers : List β) :
    Row α β :=
  ⟨.between costs pairing olders [], beyond costs pairing olders [] newers⟩

theorem additions_eq_beyond (costs : Costs) (pairing : α → β → Pairing)
    (passed rest : List β) :
    additions costs (.between costs pairing [] passed) (rest.zipIdx passed.length) =
      beyond costs pairing [] passed rest := by
  induction rest generalizing passed with
  | nil => rfl
  | cons newer rest ih =>
      have longer := ih (newer :: passed)
      rw [Trail.between, List.length_cons] at longer
      rw [List.zipIdx_cons, additions, beyond, Trail.between, longer]

theorem trails_eq_beyond (costs : Costs) (pairing : α → β → Pairing) (older : α)
    (olders : List α) (passed rest : List β) :
    trails costs older olders.length (.between costs pairing olders passed)
        (.between costs pairing (older :: olders) passed)
        (beyond costs pairing olders passed rest)
        ((rest.zipIdx passed.length).zip (rest.map (pairing older))) =
      beyond costs pairing (older :: olders) passed rest := by
  induction rest generalizing passed with
  | nil => rfl
  | cons newer rest ih =>
      have longer := ih (newer :: passed)
      rw [Trail.between, List.length_cons] at longer
      rw [List.zipIdx_cons, List.map_cons, List.zip_cons_cons, beyond, trails, beyond,
        Trail.between, longer]

theorem top_eq_along (costs : Costs) (pairing : α → β → Pairing) (newers : List β) :
    top costs newers.zipIdx = along costs pairing [] newers := by
  have behind := additions_eq_beyond costs pairing [] newers
  rw [Trail.between] at behind
  rw [top, along, Trail.between, ← behind]
  rfl

theorem next_along (costs : Costs) (pairing : α → β → Pairing) (older : α)
    (olders : List α) (newers : List β) :
    (along costs pairing olders newers).next costs newers.zipIdx older olders.length
        (newers.map (pairing older)) =
      along costs pairing (older :: olders) newers := by
  have behind := trails_eq_beyond costs pairing older olders [] newers
  rw [Trail.between] at behind
  rw [next, along, along, Trail.between, ← behind]
  rfl

theorem getLastD_beyond (costs : Costs) (pairing : α → β → Pairing) (olders : List α)
    (passed rest : List β) :
    (beyond costs pairing olders passed rest).getLastD
        (.between costs pairing olders passed) =
      .between costs pairing olders (rest.reverse ++ passed) := by
  induction rest generalizing passed with
  | nil => rfl
  | cons newer rest ih =>
      rw [beyond, List.getLastD_cons, ih, List.reverse_cons, List.append_assoc]
      rfl

theorem last_along (costs : Costs) (pairing : α → β → Pairing) (olders : List α)
    (newers : List β) :
    (along costs pairing olders newers).last =
      .between costs pairing olders newers.reverse := by
  rw [last, along, getLastD_beyond, List.append_nil]

/-- Rows are built one below the other, from the row of a front that is already behind. -/
theorem foldl_next (costs : Costs) (pairing : α → β → Pairing) (passed rest : List α)
    (newers : List β) :
    ((rest.zipIdx passed.length).zip (rest.map fun older => newers.map (pairing older))).foldl
        (fun row entry => row.next costs newers.zipIdx entry.1.1 entry.1.2 entry.2)
        (along costs pairing passed newers) =
      along costs pairing (rest.reverse ++ passed) newers := by
  induction rest generalizing passed with
  | nil => rfl
  | cons older rest ih =>
      have longer := ih (older :: passed)
      rw [List.length_cons] at longer
      rw [List.zipIdx_cons, List.map_cons, List.zip_cons_cons, List.foldl_cons, next_along,
        longer, List.reverse_cons, List.append_assoc]
      rfl

end Row

def cheapest (costs : Costs) (pairing : α → β → Pairing) (older : List α)
    (newer : List β) : Script α β :=
  script costs older newer (older.map fun element => newer.map (pairing element))

theorem cheapest_eq_between (costs : Costs) (pairing : α → β → Pairing) (older : List α)
    (newer : List β) :
    cheapest costs pairing older newer =
      ⟨(Trail.between costs pairing older.reverse newer.reverse).cost,
        (Trail.between costs pairing older.reverse newer.reverse).steps.reverse⟩ := by
  have rows := Row.foldl_next costs pairing [] older newer
  rw [List.append_nil, List.length_nil] at rows
  rw [cheapest, script, Row.top_eq_along costs pairing, rows, Row.last_along]

end StorageCompat.Alignment
