import Mathlib.Algebra.Group.Nat.Defs
import StorageCompat.Proofs.Value.Positions
import StorageCompat.Value.Shown

/-!
What cannot be written. A whole number can be written unless its digits are more than the longest
numeral has, and a value unless such a number stands somewhere in it, at whatever depth.
-/

namespace StorageCompat

theorem Numeral.isWritable_iff (number : Nat) :
    isWritable number = true ↔ number < 10 ^ longest := by
  rw [isWritable, decide_eq_true_eq]
  exact Nat.length_toDigits_le_iff (by decide) (by decide)

theorem Numeral.lt_of_two_digits {number : Nat} (few : number < 10 ^ 2) :
    number < 10 ^ longest :=
  Nat.lt_trans few (Nat.pow_lt_pow_right (by decide) (by decide))

namespace Value

theorem areWritable_iff (items : List Value) :
    areWritable items = true ↔ ∀ item ∈ items, item.isWritable = true := by
  induction items with
  | nil => exact iff_of_true rfl (List.forall_mem_nil _)
  | cons item rest ih => rw [areWritable, Bool.and_eq_true, ih, List.forall_mem_cons]

theorem entriesAreWritable_eq_map (entries : List (String × Value)) :
    entriesAreWritable entries = areWritable (entries.map Prod.snd) := by
  induction entries with
  | nil => rfl
  | cons entry rest ih => rw [entriesAreWritable, ih, List.map_cons, areWritable]

/-- A whole number has no parts, and whatever has parts is as writable as they are. -/
theorem isWritable_iff_parts (value : Value) :
    value.isWritable = true ↔
      (∀ number, value = .int number → number.natAbs < 10 ^ Numeral.longest) ∧
        ∀ part ∈ value.parts, part.isWritable = true := by
  cases value with
  | int number =>
      rw [isWritable, Numeral.isWritable_iff]
      constructor
      · intro short
        refine ⟨?_, List.forall_mem_nil _⟩
        intro other same
        cases same
        exact short
      · intro short
        exact short.1 number rfl
  | list items =>
      rw [isWritable, areWritable_iff]
      exact (and_iff_right nofun).symm
  | object entries =>
      rw [isWritable, entriesAreWritable_eq_map, areWritable_iff]
      exact (and_iff_right nofun).symm
  | _ => exact iff_of_true rfl ⟨nofun, List.forall_mem_nil _⟩

theorem isWritable_iff (value : Value) :
    value.isWritable = true ↔ ∀ position number, value.part? position = some (.int number) →
      number.natAbs < 10 ^ Numeral.longest := by
  induction value using parts_induction with
  | step value ih =>
      rw [isWritable_iff_parts]
      constructor
      · intro writable position number found
        obtain ⟨here, inside⟩ := writable
        cases position with
        | nil => exact here number (Option.some.inj found)
        | cons index inner =>
            obtain ⟨part, stands, there⟩ := (part?_cons_eq_some_iff _ _ _ _).1 found
            have member := List.mem_of_getElem? stands
            exact (ih part member).1 (inside part member) inner number there
      · intro short
        constructor
        · intro number same
          exact short [] number (congrArg some same)
        · intro part member
          obtain ⟨index, stands⟩ := List.mem_iff_getElem?.1 member
          apply (ih part member).2
          intro inner number there
          exact short (index :: inner) number
            ((part?_cons_eq_some_iff _ _ _ _).2 ⟨part, stands, there⟩)

end Value

end StorageCompat
