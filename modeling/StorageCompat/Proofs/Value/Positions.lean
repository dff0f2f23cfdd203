import Mathlib.Data.List.Basic
import Mathlib.Tactic.Choose
import StorageCompat.Value.Basic

/-!
Positions in a value. A position is the way down to a part, by the number of the item or entry at
each step. In the order of positions, which is lexicographic, a value stands before all that is in
it, and what is in an item or entry before what is in a later one. A search that puts a value it
wants in front of what it finds in the items or entries, one after another, finds all that it wants
in this order.
-/

namespace StorageCompat

abbrev Position := List Nat

namespace Value

/-- What a value is directly made of: the items of a list, the values of the entries of an
object. -/
def parts : Value → List Value
  | .list items => items
  | .object entries => entries.map Prod.snd
  | _ => []

def part? : Value → Position → Option Value
  | value, [] => some value
  | value, index :: inner => value.parts[index]?.bind fun part => part.part? inner

theorem part?_cons_eq_some_iff (value found : Value) (index : Nat) (inner : Position) :
    value.part? (index :: inner) = some found ↔
      ∃ part, value.parts[index]? = some part ∧ part.part? inner = some found := by
  rw [part?, Option.bind_eq_some_iff]

theorem sizeOf_lt_of_mem_parts {value part : Value} (member : part ∈ value.parts) :
    sizeOf part < sizeOf value := by
  cases value with
  | list items =>
      have smaller : sizeOf part < sizeOf items := List.sizeOf_lt_of_mem member
      simp only [Value.list.sizeOf_spec]
      omega
  | object entries =>
      obtain ⟨entry, inside, rfl⟩ := List.mem_map.1 member
      have smaller : sizeOf entry < sizeOf entries := List.sizeOf_lt_of_mem inside
      have half : sizeOf entry.2 < sizeOf entry := by
        cases entry
        simp only [Prod.mk.sizeOf_spec]
        omega
      simp only [Value.object.sizeOf_spec]
      omega
  | _ => cases member

/-- What holds of a value if it holds of all that the value is made of, holds of every value. -/
theorem parts_induction {motive : Value → Prop}
    (step : ∀ value, (∀ part ∈ value.parts, motive part) → motive value) (value : Value) :
    motive value := by
  apply (measure (sizeOf : Value → Nat)).wf.induction value
  intro value smaller
  exact step value fun part member => smaller part (sizeOf_lt_of_mem_parts member)

/-- The positions of all wanted parts of a value, each once and in order, and what stands there. -/
structure Enumerates (wanted : Value → Prop) (value : Value) (positions : List Position)
    (found : List Value) : Prop where
  ordered : positions.Pairwise (· < ·)
  complete : ∀ position,
    position ∈ positions ↔ ∃ part, value.part? position = some part ∧ wanted part
  located : positions.map value.part? = found.map some

def positionsInside (positions : Value → List Position) (parts : List Value) : List Position :=
  parts.zipIdx.flatMap fun entry => (positions entry.1).map (entry.2 :: ·)

theorem mem_positionsInside_iff (positions : Value → List Position) (parts : List Value)
    (position : Position) :
    position ∈ positionsInside positions parts ↔
      ∃ index part inner, parts[index]? = some part ∧ inner ∈ positions part ∧
        position = index :: inner := by
  simp only [positionsInside, List.mem_flatMap, List.mem_map]
  constructor
  · intro inside
    obtain ⟨⟨part, index⟩, member, inner, known, rfl⟩ := inside
    exact ⟨index, part, inner, List.mem_zipIdx_iff_getElem?.1 member, known, rfl⟩
  · intro inside
    obtain ⟨index, part, inner, stands, known, rfl⟩ := inside
    exact ⟨(part, index), List.mem_zipIdx_iff_getElem?.2 stands, inner, known, rfl⟩

theorem pairwise_zipIdx (parts : List Value) :
    parts.zipIdx.Pairwise fun first second => first.2 < second.2 := by
  rw [← List.pairwise_map, List.zipIdx_map_snd]
  exact List.pairwise_lt_range'

theorem pairwise_positionsInside {positions : Value → List Position} {parts : List Value}
    (each : ∀ part ∈ parts, (positions part).Pairwise (· < ·)) :
    (positionsInside positions parts).Pairwise (· < ·) := by
  unfold positionsInside
  rw [List.pairwise_flatMap]
  constructor
  · intro entry member
    have stands : parts[entry.2]? = some entry.1 := List.mem_zipIdx_iff_getElem?.1 member
    rw [List.pairwise_map]
    apply (each entry.1 (List.mem_of_getElem? stands)).imp
    intro first second less
    exact List.cons_lt_cons_iff.2 (Or.inr ⟨rfl, less⟩)
  · apply (pairwise_zipIdx parts).imp
    intro first second less position inFirst other inSecond
    obtain ⟨inner, -, rfl⟩ := List.mem_map.1 inFirst
    obtain ⟨inner', -, rfl⟩ := List.mem_map.1 inSecond
    exact List.cons_lt_cons_iff.2 (Or.inl less)

/-- What stands at the positions inside is what stands in the items or entries. -/
theorem map_part?_positionsInside {value : Value} {positions : Value → List Position}
    {search : Value → List Value}
    (each : ∀ part ∈ value.parts, (positions part).map part.part? = (search part).map some) :
    (positionsInside positions value.parts).map value.part? =
      (value.parts.flatMap search).map some := by
  have stands (entry : Value × Nat) (member : entry ∈ value.parts.zipIdx) :
      ((positions entry.1).map (entry.2 :: ·)).map value.part? = (search entry.1).map some := by
    have found : value.parts[entry.2]? = some entry.1 := List.mem_zipIdx_iff_getElem?.1 member
    have down (inner : Position) : value.part? (entry.2 :: inner) = entry.1.part? inner := by
      rw [part?, found, Option.bind_some]
    rw [List.map_map, ← each entry.1 (List.mem_of_getElem? found)]
    exact List.map_congr_left fun inner _ => down inner
  calc (positionsInside positions value.parts).map value.part?
      = value.parts.zipIdx.flatMap fun entry => (search entry.1).map some := by
        rw [positionsInside, List.map_flatMap]
        exact List.flatMap_congr stands
    _ = (value.parts.zipIdx.map Prod.fst).flatMap fun part => (search part).map some := by
        rw [List.flatMap_map]
    _ = (value.parts.flatMap search).map some := by
        rw [List.zipIdx_map_fst, List.map_flatMap]

theorem mem_positionsInside_iff_wanted {wanted : Value → Prop} {value : Value}
    {positions : Value → List Position}
    (each : ∀ part ∈ value.parts, ∀ position,
      position ∈ positions part ↔ ∃ found, part.part? position = some found ∧ wanted found)
    (position : Position) :
    position ∈ positionsInside positions value.parts ↔
      position ≠ [] ∧ ∃ found, value.part? position = some found ∧ wanted found := by
  rw [mem_positionsInside_iff]
  constructor
  · intro inside
    obtain ⟨index, part, inner, stands, known, rfl⟩ := inside
    obtain ⟨found, there, holds⟩ := (each part (List.mem_of_getElem? stands) inner).1 known
    have down := (part?_cons_eq_some_iff value found index inner).2 ⟨part, stands, there⟩
    exact ⟨List.cons_ne_nil index inner, found, down, holds⟩
  · intro inside
    obtain ⟨below, found, there, holds⟩ := inside
    cases position with
    | nil => exact absurd rfl below
    | cons index inner =>
        obtain ⟨part, stands, there⟩ := (part?_cons_eq_some_iff _ _ _ _).1 there
        have known := (each part (List.mem_of_getElem? stands) inner).2 ⟨found, there, holds⟩
        exact ⟨index, part, inner, stands, known, rfl⟩

/-- A search that lists a wanted value in front of what it lists in the parts, one after another,
lists exactly the wanted parts, in the order of their positions. -/
theorem exists_enumerates {wanted : Value → Prop} [DecidablePred wanted]
    {search : Value → List Value}
    (search_eq : ∀ value,
      search value = (if wanted value then [value] else []) ++ value.parts.flatMap search)
    (value : Value) : ∃ positions, Enumerates wanted value positions (search value) := by
  induction value using parts_induction with
  | step value ih =>
      choose! positions enumerates using ih
      have own (position : Position) :
          position ∈ (if wanted value then [[]] else []) ↔ position = [] ∧ wanted value := by
        by_cases holds : wanted value
        · simp [holds]
        · simp [holds]
      have inside := mem_positionsInside_iff_wanted fun part member =>
        (enumerates part member).complete
      refine ⟨(if wanted value then [[]] else []) ++ positionsInside positions value.parts, ?_, ?_,
        ?_⟩
      · rw [List.pairwise_append]
        refine ⟨by split <;> simp, pairwise_positionsInside fun part member =>
          (enumerates part member).ordered, ?_⟩
        intro first here second later
        obtain ⟨rfl, -⟩ := (own first).1 here
        obtain ⟨index, part, inner, -, -, rfl⟩ := (mem_positionsInside_iff _ _ _).1 later
        exact List.nil_lt_cons index inner
      · intro position
        rw [List.mem_append, own, inside]
        cases position with
        | nil => simp [part?]
        | cons index inner => simp
      · rw [search_eq, List.map_append, List.map_append,
          map_part?_positionsInside fun part member => (enumerates part member).located]
        split <;> rfl

theorem Enumerates.congr {wanted wanted' : Value → Prop} {value : Value}
    {positions : List Position} {found : List Value}
    (enumerates : Enumerates wanted value positions found)
    (same : ∀ part, wanted part ↔ wanted' part) : Enumerates wanted' value positions found := by
  refine ⟨enumerates.ordered, ?_, enumerates.located⟩
  intro position
  simp only [enumerates.complete, same]

end Value

end StorageCompat
