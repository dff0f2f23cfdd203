import Mathlib.Logic.Function.Basic
import StorageCompat.Proofs.Alignment.Asking
import StorageCompat.Proofs.Alignment.Fronts

/-!
The matrix and the walk through it. The least costs of all pairs of fronts are entered into a
matrix cell by cell, the borders first and then row by row; from the last cell a walk goes back to
the first one, and each of its steps is the first that accounts for the cost of the cell. This comes
to the same as keeping the trails: the cost of a trail is what the matrix has in its cell, and of
the three trails that can be gone on with the walk takes the one that was the best.
-/

namespace StorageCompat.Alignment

/-- What the fronts of `i` and of `j` elements cost, under `(i, j)`. -/
abbrev Matrix := Nat × Nat → Nat

namespace Matrix

def fillBorder (place : Nat → Nat × Nat) (cost count : Nat) (matrix : Matrix) : Matrix :=
  (List.range count).foldl
    (fun matrix k => Function.update matrix (place (k + 1)) (matrix (place k) + cost)) matrix

def fillCell (costs : Costs) (i j : Nat) (pairing : Pairing) (matrix : Matrix) : Matrix :=
  Function.update matrix (i + 1, j + 1)
    (min (matrix (i, j) + costs.ofPairing pairing)
      (min (matrix (i, j + 1) + costs.delete) (matrix (i + 1, j) + costs.append)))

def fillRow (costs : Costs) (i : Nat) (row : List Pairing) (matrix : Matrix) : Matrix :=
  row.zipIdx.foldl (fun matrix entry => matrix.fillCell costs i entry.2 entry.1) matrix

def fill (costs : Costs) (m n : Nat) (table : List (List Pairing)) : Matrix :=
  let blank : Matrix := fun _ => 0
  let borders := (blank.fillBorder (·, 0) costs.delete m).fillBorder (0, ·) costs.append n
  table.zipIdx.foldl (fun matrix entry => matrix.fillRow costs entry.2 entry.1) borders

section

variable {α β : Type}

/-- The steps from a cell back to the first one, the last step first; none if the walk leaves the
matrix. -/
def walk (costs : Costs) (matrix : Matrix) (table : List (List Pairing)) (older : List α)
    (newer : List β) : (i j : Nat) → Option (List (Step α β))
  | 0, 0 => some []
  | i + 1, 0 => do
      let first ← older[i]?
      if matrix (i + 1, 0) = matrix (i, 0) + costs.delete then
        return .delete i first :: (← walk costs matrix table older newer i 0)
      else none
  | 0, j + 1 => do
      let second ← newer[j]?
      return .append j second :: (← walk costs matrix table older newer 0 j)
  | i + 1, j + 1 => do
      let first ← older[i]?
      let second ← newer[j]?
      let pairing ← (← table[i]?)[j]?
      if matrix (i + 1, j + 1) = matrix (i, j) + costs.ofPairing pairing then
        return .pair pairing i first j second :: (← walk costs matrix table older newer i j)
      else if matrix (i + 1, j + 1) = matrix (i, j + 1) + costs.delete then
        return .delete i first :: (← walk costs matrix table older newer i (j + 1))
      else return .append j second :: (← walk costs matrix table older newer (i + 1) j)
  termination_by i j => i + j

def script (costs : Costs) (older : List α) (newer : List β) (table : List (List Pairing)) :
    Option (Script α β) := do
  let matrix := fill costs older.length newer.length table
  let steps ← matrix.walk costs table older newer older.length newer.length
  return ⟨matrix (older.length, newer.length), steps.reverse⟩

end

def Accounts (costs : Costs) (matrix : Matrix) (i j : Nat) (pairing : Pairing) : Prop :=
  matrix (i + 1, j + 1) =
    min (matrix (i, j) + costs.ofPairing pairing)
      (min (matrix (i, j + 1) + costs.delete) (matrix (i + 1, j) + costs.append))

structure Solves (costs : Costs) (m n : Nat) (table : List (List Pairing)) (matrix : Matrix) :
    Prop where
  corner : matrix (0, 0) = 0
  left : ∀ i < m, matrix (i + 1, 0) = matrix (i, 0) + costs.delete
  top : ∀ j < n, matrix (0, j + 1) = matrix (0, j) + costs.append
  inner : ∀ {i row j pairing}, table[i]? = some row → row[j]? = some pairing →
    Accounts costs matrix i j pairing

theorem Accounts.congr {costs : Costs} {matrix matrix' : Matrix} {i j : Nat} {pairing : Pairing}
    (accounts : Accounts costs matrix i j pairing)
    (same : ∀ cell : Nat × Nat, cell.1 ≤ i + 1 → cell.2 ≤ j + 1 → matrix' cell = matrix cell) :
    Accounts costs matrix' i j pairing := by
  rw [Accounts, same _ (Nat.le_refl _) (Nat.le_refl _), same _ (Nat.le_succ i) (Nat.le_succ j),
    same _ (Nat.le_succ i) (Nat.le_refl _), same _ (Nat.le_refl _) (Nat.le_succ j)]
  exact accounts

theorem accounts_fillCell (costs : Costs) (i j : Nat) (pairing : Pairing) (matrix : Matrix) :
    Accounts costs (matrix.fillCell costs i j pairing) i j pairing := by
  have before : (i, j) ≠ (i + 1, j + 1) := by simp
  have above : (i, j + 1) ≠ (i + 1, j + 1) := by simp
  have left : (i + 1, j) ≠ (i + 1, j + 1) := by simp
  rw [Accounts, fillCell, Function.update_self, Function.update_of_ne before,
    Function.update_of_ne above, Function.update_of_ne left]

/-- A border that has been filled, in a matrix that is otherwise as it was. -/
theorem fillBorder_spec {place : Nat → Nat × Nat} (injective : Function.Injective place)
    (cost count : Nat) (matrix : Matrix) :
    (∀ cell, (∀ k < count, cell ≠ place (k + 1)) →
      matrix.fillBorder place cost count cell = matrix cell) ∧
    ∀ k < count, matrix.fillBorder place cost count (place (k + 1)) =
      matrix.fillBorder place cost count (place k) + cost := by
  induction count with
  | zero => exact ⟨fun _ _ => rfl, fun _ absurd => nomatch absurd⟩
  | succ count ih =>
      obtain ⟨kept, filled⟩ := ih
      have last : matrix.fillBorder place cost (count + 1) =
          Function.update (matrix.fillBorder place cost count) (place (count + 1))
            (matrix.fillBorder place cost count (place count) + cost) := by
        rw [fillBorder, List.range_succ, List.foldl_append]
        rfl
      have other {k : Nat} (early : k < count + 1) : place k ≠ place (count + 1) := by
        intro same
        have := injective same
        omega
      rw [last]
      constructor
      · intro cell outside
        rw [Function.update_of_ne (outside count (Nat.lt_succ_self count))]
        exact kept cell fun k early => outside k (Nat.lt_succ_of_lt early)
      · intro k early
        rw [Function.update_of_ne (other early)]
        obtain early | rfl := Nat.lt_succ_iff_lt_or_eq.1 early
        · rw [Function.update_of_ne (other (Nat.succ_lt_succ early)), filled k early]
        · rw [Function.update_self]

theorem fillRow_spec (costs : Costs) (i j : Nat) (rest : List Pairing) (matrix filled : Matrix)
    (result : (rest.zipIdx j).foldl
      (fun matrix entry => matrix.fillCell costs i entry.2 entry.1) matrix = filled) :
    (∀ cell, cell.1 ≠ i + 1 ∨ cell.2 ≤ j → filled cell = matrix cell) ∧
      ∀ {k pairing}, rest[k]? = some pairing → Accounts costs filled i (j + k) pairing := by
  induction rest generalizing j matrix with
  | nil =>
      subst result
      exact ⟨fun _ _ => rfl, fun absurd => nomatch absurd⟩
  | cons pairing rest ih =>
      obtain ⟨kept, accounts⟩ := ih (j + 1) _ result
      constructor
      · intro cell outside
        have other : cell ≠ (i + 1, j + 1) := by
          rintro rfl
          simp at outside
        rw [kept cell (by omega)]
        exact Function.update_of_ne other _ _
      · intro k found there
        cases k with
        | zero =>
            obtain rfl := Option.some.inj there
            exact (accounts_fillCell costs i j pairing matrix).congr
              fun cell _ early => kept cell (Or.inr early)
        | succ k =>
            have := accounts there
            rwa [Nat.add_assoc, Nat.add_comm 1 k] at this

/-- The rows behind the first ones, in a matrix that is otherwise as it was. -/
theorem fillRows_spec (costs : Costs) (i : Nat) (rest : List (List Pairing))
    (matrix filled : Matrix)
    (result : (rest.zipIdx i).foldl
      (fun matrix entry => matrix.fillRow costs entry.2 entry.1) matrix = filled) :
    (∀ cell, cell.1 ≤ i ∨ cell.2 = 0 → filled cell = matrix cell) ∧
      ∀ {k row j pairing}, rest[k]? = some row → row[j]? = some pairing →
        Accounts costs filled (i + k) j pairing := by
  induction rest generalizing i matrix with
  | nil =>
      subst result
      exact ⟨fun _ _ => rfl, fun absurd => nomatch absurd⟩
  | cons row rest ih =>
      obtain ⟨kept, accounts⟩ := ih (i + 1) _ result
      obtain ⟨kept', accounts'⟩ := fillRow_spec costs i 0 row matrix _ rfl
      constructor
      · intro cell outside
        rw [kept cell (by omega)]
        exact kept' cell (by omega)
      · intro k found j pairing there known
        cases k with
        | zero =>
            obtain rfl := Option.some.inj there
            have here := accounts' known
            rw [Nat.zero_add] at here
            exact here.congr fun cell early _ => kept cell (Or.inl early)
        | succ k =>
            have := accounts there known
            rwa [Nat.add_assoc, Nat.add_comm 1 k] at this

theorem solves_fill (costs : Costs) (m n : Nat) (table : List (List Pairing)) :
    Solves costs m n table (fill costs m n table) := by
  have rows : Function.Injective fun i : Nat => (i, 0) := fun _ _ same => (Prod.mk.inj same).1
  have columns : Function.Injective fun j : Nat => (0, j) := fun _ _ same => (Prod.mk.inj same).2
  obtain ⟨blank, left⟩ := fillBorder_spec rows costs.delete m fun _ => 0
  obtain ⟨aside, top⟩ := fillBorder_spec columns costs.append n
    (fillBorder (·, 0) costs.delete m fun _ => 0)
  obtain ⟨kept, inner⟩ := fillRows_spec costs 0 table _ _ (rfl : _ = fill costs m n table)
  have onLeft (i : Nat) : fill costs m n table (i, 0) =
      fillBorder (·, 0) costs.delete m (fun _ => 0) (i, 0) := by
    rw [kept _ (Or.inr rfl)]
    exact aside _ fun k _ same => nomatch same
  refine ⟨?_, ?_, ?_, ?_⟩
  · rw [onLeft]
    exact blank _ fun k _ same => nomatch same
  · intro i early
    rw [onLeft, onLeft]
    exact left i early
  · intro j early
    rw [kept _ (Or.inl (Nat.le_refl 0)), kept _ (Or.inl (Nat.le_refl 0))]
    exact top j early
  · intro i row j pairing there known
    have := inner there known
    rwa [Nat.zero_add] at this

end Matrix

variable {α β : Type} {costs : Costs} {older : List α} {newer : List β}
  {table : List (List Pairing)}

/-- The trail to the fronts of `i` and of `j` elements, by the trails that it goes on from. -/
inductive Trail.StandsAt (costs : Costs) (older : List α) (newer : List β)
    (table : List (List Pairing)) : Nat → Nat → Trail α β → Prop
  | start : StandsAt costs older newer table 0 0 .start
  | delete {i : Nat} {trail : Trail α β} {first : α}
      (before : StandsAt costs older newer table i 0 trail) (here : older[i]? = some first) :
      StandsAt costs older newer table (i + 1) 0 (trail.extend costs (.delete i first))
  | append {j : Nat} {trail : Trail α β} {second : β}
      (before : StandsAt costs older newer table 0 j trail) (there : newer[j]? = some second) :
      StandsAt costs older newer table 0 (j + 1) (trail.extend costs (.append j second))
  | best {i j : Nat} {paired deleted appended : Trail α β} {first : α} {second : β}
      {row : List Pairing} {pairing : Pairing}
      (diagonal : StandsAt costs older newer table i j paired)
      (above : StandsAt costs older newer table i (j + 1) deleted)
      (left : StandsAt costs older newer table (i + 1) j appended)
      (here : older[i]? = some first) (there : newer[j]? = some second)
      (measured : table[i]? = some row) (known : row[j]? = some pairing) :
      StandsAt costs older newer table (i + 1) (j + 1)
        (.best (paired.extend costs (.pair pairing i first j second))
          (deleted.extend costs (.delete i first)) (appended.extend costs (.append j second)))

namespace Trail

theorem best_cost (paired deleted appended : Trail α β) :
    (best paired deleted appended).cost = min paired.cost (min deleted.cost appended.cost) := by
  unfold best
  split
  · omega
  · split <;> omega

variable {i j : Nat} {trail : Trail α β} {matrix : Matrix}

theorem StandsAt.cost_eq (stands : trail.StandsAt costs older newer table i j)
    (solves : matrix.Solves costs older.length newer.length table) :
    matrix (i, j) = trail.cost := by
  induction stands with
  | start => exact solves.corner
  | delete _ here ih =>
      rw [solves.left _ (List.getElem?_eq_some_iff.1 here).1, ih]
      rfl
  | append _ there ih =>
      rw [solves.top _ (List.getElem?_eq_some_iff.1 there).1, ih]
      rfl
  | best _ _ _ _ _ measured known diagonal above left =>
      rw [solves.inner measured known, diagonal, above, left, best_cost]
      rfl

theorem StandsAt.walk_eq (stands : trail.StandsAt costs older newer table i j)
    (solves : matrix.Solves costs older.length newer.length table) :
    matrix.walk costs table older newer i j = some trail.steps := by
  induction stands with
  | start =>
      rw [Matrix.walk]
      rfl
  | delete before here ih =>
      have cost := solves.left _ (List.getElem?_eq_some_iff.1 here).1
      simp only [Matrix.walk, here, ih, if_pos cost, Option.bind_eq_bind, Option.bind_some,
        extend_steps]
      rfl
  | append before there ih =>
      simp only [Matrix.walk, there, ih, Option.bind_eq_bind, Option.bind_some, extend_steps]
      rfl
  | best diagonal above left here there measured known walked walked' walked'' =>
      have whole := (StandsAt.best diagonal above left here there measured known).cost_eq solves
      simp only [Matrix.walk, here, there, measured, known, walked, walked', walked'',
        diagonal.cost_eq solves, above.cost_eq solves, whole, Option.bind_eq_bind,
        Option.bind_some]
      -- The tests are made in the order in which the best of three trails is chosen.
      obtain best | ⟨best, less⟩ | ⟨best, less, less'⟩ := best_cases _ _ _
      · rw [best]
        exact if_pos rfl
      · rw [best]
        exact (if_neg (Nat.ne_of_lt less)).trans (if_pos rfl)
      · rw [best]
        exact (if_neg (Nat.ne_of_lt less)).trans (if_neg (Nat.ne_of_lt less'))

end Trail

namespace Row

inductive StandBehind (costs : Costs) (older : List α) (newer : List β)
    (table : List (List Pairing)) (i : Nat) : Nat → List (Trail α β) → Prop
  | nil : StandBehind costs older newer table i newer.length []
  | cons {j : Nat} {trail : Trail α β} {trails : List (Trail α β)} {second : β}
      (there : newer[j]? = some second) (stands : trail.StandsAt costs older newer table i (j + 1))
      (later : StandBehind costs older newer table i (j + 1) trails) :
      StandBehind costs older newer table i j (trail :: trails)

structure StandsAt (costs : Costs) (older : List α) (newer : List β) (table : List (List Pairing))
    (i : Nat) (row : Row α β) : Prop where
  first : row.first.StandsAt costs older newer table i 0
  others : StandBehind costs older newer table i 0 row.others

variable {i j : Nat}

theorem standBehind_additions (front rest : List β) {left : Trail α β}
    (stands : left.StandsAt costs older (front ++ rest) table 0 front.length) :
    StandBehind costs older (front ++ rest) table 0 front.length
      (additions costs left (rest.zipIdx front.length)) := by
  induction rest generalizing front left with
  | nil =>
      rw [List.append_nil]
      exact .nil
  | cons second rest ih =>
      have there : (front ++ second :: rest)[front.length]? = some second := by simp
      have longer := stands.append there
      have later := ih (front ++ [second]) (by simpa using longer)
      exact .cons there longer (by simpa using later)

theorem StandBehind.trails {row : List Pairing} {first : α} {diagonal left : Trail α β}
    {above : List (Trail α β)} (here : older[i]? = some first) (measured : table[i]? = some row)
    (length : row.length = newer.length) (along : StandBehind costs older newer table i j above)
    (diagonals : diagonal.StandsAt costs older newer table i j)
    (lefts : left.StandsAt costs older newer table (i + 1) j) :
    StandBehind costs older newer table (i + 1) j
      (trails costs first i diagonal left above ((newer.zipIdx.zip row).drop j)) := by
  induction along generalizing diagonal left with
  | nil =>
      rw [Row.trails]
      · exact .nil
      · intro _ _ _ _ _ _ absurd
        cases absurd
  | @cons j above aboves second there stands later ih =>
      obtain ⟨early, rfl⟩ := List.getElem?_eq_some_iff.1 there
      have known : row[j]? = some row[j] := List.getElem?_eq_getElem (length ▸ early)
      have entries : (newer.zipIdx.zip row).drop j =
          ((newer[j], j), row[j]) :: (newer.zipIdx.zip row).drop (j + 1) := by
        rw [List.drop_eq_getElem_cons (by simp [length, early])]
        simp
      have longer := Trail.StandsAt.best diagonals stands lefts here there measured known
      rw [entries, Row.trails]
      exact .cons there longer (ih stands longer)

theorem StandBehind.getLastD {left : Trail α β} {trails : List (Trail α β)}
    (along : StandBehind costs older newer table i j trails)
    (stands : left.StandsAt costs older newer table i j) :
    (trails.getLastD left).StandsAt costs older newer table i newer.length := by
  induction along generalizing left with
  | nil => exact stands
  | cons _ here _ ih =>
      rw [List.getLastD_cons]
      exact ih here

theorem standsAt_top : StandsAt costs older newer table 0 (top costs newer.zipIdx) :=
  ⟨.start, standBehind_additions [] newer .start⟩

theorem StandsAt.next {above : Row α β} {row : List Pairing} {first : α}
    (stands : StandsAt costs older newer table i above) (here : older[i]? = some first)
    (measured : table[i]? = some row) (length : row.length = newer.length) :
    StandsAt costs older newer table (i + 1) (above.next costs newer.zipIdx first i row) := by
  have first := stands.first.delete here
  exact ⟨first, stands.others.trails here measured length stands.first first⟩

theorem StandsAt.foldl {row : Row α β} (measures : Measures older newer table)
    (stands : StandsAt costs older newer table i row)
    (rest : List ((α × Nat) × List Pairing))
    (entries : ∀ k entry, rest[k]? = some entry →
      entry.1.2 = i + k ∧ older[i + k]? = some entry.1.1 ∧ table[i + k]? = some entry.2) :
    StandsAt costs older newer table (i + rest.length)
      (rest.foldl (fun row entry => row.next costs newer.zipIdx entry.1.1 entry.1.2 entry.2)
        row) := by
  induction rest generalizing i row with
  | nil => exact stands
  | cons entry rest ih =>
      obtain ⟨place, here, measured⟩ := entries 0 entry rfl
      have longer := stands.next here measured (measures.columns _ (List.mem_of_getElem? measured))
      have all := ih longer fun k later found => by
        have there := entries (k + 1) later found
        rwa [Nat.add_comm k 1, ← Nat.add_assoc] at there
      rw [List.foldl_cons, place, List.length_cons, Nat.add_comm rest.length, ← Nat.add_assoc]
      exact all

end Row

theorem Matrix.script_eq (costs : Costs) (older : List α) (newer : List β)
    (table : List (List Pairing)) (measures : Measures older newer table) :
    Matrix.script costs older newer table = some (Alignment.script costs older newer table) := by
  have solves := solves_fill costs older.length newer.length table
  have length : (older.zipIdx.zip table).length = older.length := by
    rw [List.length_zip, List.length_zipIdx, measures.rows, Nat.min_self]
  have entries (k : Nat) (entry : (α × Nat) × List Pairing)
      (found : (older.zipIdx.zip table)[k]? = some entry) :
      entry.1.2 = 0 + k ∧ older[0 + k]? = some entry.1.1 ∧ table[0 + k]? = some entry.2 := by
    obtain ⟨here, measured⟩ := List.getElem?_zip_eq_some.1 found
    rw [List.getElem?_zipIdx, Option.map_eq_some_iff] at here
    obtain ⟨first, here, placed⟩ := here
    rw [Nat.zero_add, ← placed]
    exact ⟨Nat.zero_add k, here, measured⟩
  have top : (Row.top costs newer.zipIdx).StandsAt costs older newer table 0 := Row.standsAt_top
  have bottom := top.foldl measures (older.zipIdx.zip table) entries
  rw [Nat.zero_add, length] at bottom
  have last := bottom.others.getLastD bottom.first
  rw [Matrix.script, last.walk_eq solves, last.cost_eq solves]
  rfl

example : (Matrix.script .standard ['a', 'b'] ['b'] [[.rename], [.equal]]).map Script.steps =
    some [.delete 0 'a', .pair .equal 1 'b' 0 'b'] := by cbv

end StorageCompat.Alignment
