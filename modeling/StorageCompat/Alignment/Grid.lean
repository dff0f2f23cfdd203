import StorageCompat.Alignment.Step

/-!
The cheapest alignment of two sequences. For every pair of fronts a trail is kept: the least
cost and the steps that reach it, the last step first. Of equally cheap last steps a pairing
is preferred to a deletion, and a deletion to an addition.
-/

namespace StorageCompat.Alignment

variable {α β : Type}

/-- A way to align two fronts: its cost, and its steps with the last one first. -/
structure Trail (α β : Type) where
  cost : Nat
  steps : List (Step α β)

namespace Trail

def start : Trail α β := ⟨0, []⟩

def extend (costs : Costs) (trail : Trail α β) (step : Step α β) : Trail α β :=
  ⟨trail.cost + step.cost costs, step :: trail.steps⟩

/-- The cheapest of three trails, the earlier one where two cost the same. -/
def best (paired deleted appended : Trail α β) : Trail α β :=
  if paired.cost ≤ deleted.cost ∧ paired.cost ≤ appended.cost then paired
  else if deleted.cost ≤ appended.cost then deleted
  else appended

end Trail

structure Row (α β : Type) where
  first : Trail α β
  others : List (Trail α β)

namespace Row

def last (row : Row α β) : Trail α β :=
  row.others.getLastD row.first

def additions (costs : Costs) : (left : Trail α β) → List (β × Nat) → List (Trail α β)
  | _, [] => []
  | left, (element, index) :: rest =>
      let here := left.extend costs (.append index element)
      here :: additions costs here rest

def top (costs : Costs) (newer : List (β × Nat)) : Row α β :=
  ⟨.start, additions costs .start newer⟩

/-- The trails of a longer front, from those of the front without its last element. Each has
a neighbour in the row above, one before that, and one on its left. -/
def trails (costs : Costs) (older : α) (place : Nat) :
    (diagonal left : Trail α β) → (above : List (Trail α β)) → List ((β × Nat) × Pairing) →
      List (Trail α β)
  | diagonal, left, above :: aboves, ((element, index), pairing) :: rest =>
      let here :=
        Trail.best (diagonal.extend costs (.pair pairing place older index element))
          (above.extend costs (.delete place older))
          (left.extend costs (.append index element))
      here :: trails costs older place above here aboves rest
  | _, _, _, _ => []

def next (costs : Costs) (newer : List (β × Nat)) (above : Row α β) (older : α)
    (place : Nat) (pairings : List Pairing) : Row α β :=
  let first := above.first.extend costs (.delete place older)
  ⟨first, trails costs older place above.first first above.others (newer.zip pairings)⟩

end Row

structure Script (α β : Type) where
  cost : Nat
  steps : List (Step α β)

def script (costs : Costs) (older : List α) (newer : List β)
    (pairings : List (List Pairing)) : Script α β :=
  let newer := newer.zipIdx
  let bottom :=
    (older.zipIdx.zip pairings).foldl
      (fun row entry => row.next costs newer entry.1.1 entry.1.2 entry.2)
      (Row.top costs newer)
  ⟨bottom.last.cost, bottom.last.steps.reverse⟩

end StorageCompat.Alignment
