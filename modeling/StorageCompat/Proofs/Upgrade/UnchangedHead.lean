import Mathlib.Data.List.Nodup
import Mathlib.Order.Bounds.Basic
import StorageCompat.Proofs.Alignment.CommonHead
import StorageCompat.Proofs.Upgrade.History
import StorageCompat.Proofs.Upgrade.Listing

/-!
Heads of layouts that stay as they are. Where no layout has two variables of one label, variables at
the heads that stay the same are listed as equal, each in its place, whatever is changed behind them
and whatever the changes cost.
-/

open StorageCompat.Alignment

namespace StorageCompat.Upgrade

structure DistinctLabels (layout : Layout) : Prop where
  textual : ∀ slot ∈ layout.slots, ∃ text, slot.label = .text text
  nodup : (layout.slots.map Slot.label).Nodup

/-- The first variables of the layouts are the same, up to the given number. -/
def SameHead (older newer : Layout) (count : Nat) : Prop :=
  ∀ k, k < count → ∃ first second, older.slots[k]? = some first ∧
    newer.slots[k]? = some second ∧ SameVariable older newer first second

/-- The list begins with the first variables of the layouts, each paired with its equal. -/
def ListsHead (older newer : Layout) (count : Nat) (listed : List Change) : Prop :=
  ∀ k, k < count → ∃ first second, older.slots[k]? = some first ∧
    newer.slots[k]? = some second ∧ listed[k]? = some (.pair .equal k first k second)

namespace DistinctLabels

variable {layout : Layout}

theorem label_not_mem_take (distinct : DistinctLabels layout) {count : Nat} {slot : Slot}
    (late : slot ∈ layout.slots.drop count) :
    slot.label ∉ (layout.slots.take count).map Slot.label := by
  have parts := distinct.nodup
  rw [← List.take_append_drop count layout.slots, List.map_append] at parts
  intro early
  exact List.disjoint_of_nodup_append parts early (List.mem_map_of_mem late)

theorem eq_label_of_same (distinct : DistinctLabels layout) {slot : Slot}
    (member : slot ∈ layout.slots) {label : Value} (same : label.same slot.label = true) :
    label = slot.label := by
  obtain ⟨text, labelled⟩ := distinct.textual slot member
  rw [labelled] at same ⊢
  exact (label.same_text_iff text).1 same

end DistinctLabels

namespace SameHead

variable {older newer : Layout} {count : Nat}

theorem correspond (same : SameHead older newer count) :
    Correspond (slotPairing older newer) (older.slots.take count) (newer.slots.take count) := by
  have found (k : Nat) (early : k < count) : k < older.slots.length ∧ k < newer.slots.length := by
    obtain ⟨first, second, here, there, -⟩ := same k early
    exact ⟨(List.getElem?_eq_some_iff.1 here).1, (List.getElem?_eq_some_iff.1 there).1⟩
  refine List.forall₂_iff_get.2 ⟨?_, ?_⟩
  · have last := found (count - 1)
    rw [List.length_take, List.length_take]
    omega
  · intro k early late
    rw [List.length_take] at early
    obtain ⟨first, second, here, there, equal⟩ := same k (by omega)
    obtain ⟨_, rfl⟩ := List.getElem?_eq_some_iff.1 here
    obtain ⟨_, rfl⟩ := List.getElem?_eq_some_iff.1 there
    rw [List.get_eq_getElem, List.get_eq_getElem, List.getElem_take, List.getElem_take]
    exact (slotPairing_eq_equal_iff older newer _ _).2 equal

theorem map_label_take (same : SameHead older newer count) (distinct' : DistinctLabels newer) :
    (older.slots.take count).map Slot.label = (newer.slots.take count).map Slot.label := by
  apply List.ext_getElem?
  intro k
  rw [List.getElem?_map, List.getElem?_map, List.getElem?_take, List.getElem?_take]
  split
  case isFalse => rfl
  case isTrue early =>
    obtain ⟨first, second, here, there, sameLabel, -⟩ := same k early
    have label := distinct'.eq_label_of_same (List.mem_of_getElem? there) sameLabel
    rw [here, there, Option.map_some, Option.map_some, label]

theorem apart_drop_take (same : SameHead older newer count) (distinct : DistinctLabels older)
    (distinct' : DistinctLabels newer) :
    Apart (slotPairing older newer) (older.slots.drop count) (newer.slots.take count) := by
  intro first late second early equal
  have sameLabel := ((slotPairing_eq_equal_iff older newer first second).1 equal).1
  have label := distinct'.eq_label_of_same (List.mem_of_mem_take early) sameLabel
  apply distinct.label_not_mem_take late
  rw [label, same.map_label_take distinct']
  exact List.mem_map_of_mem early

theorem apart_take_drop (same : SameHead older newer count) (distinct' : DistinctLabels newer) :
    Apart (slotPairing older newer) (older.slots.take count) (newer.slots.drop count) := by
  intro first early second late equal
  have sameLabel := ((slotPairing_eq_equal_iff older newer first second).1 equal).1
  have label := distinct'.eq_label_of_same (List.mem_of_mem_drop late) sameLabel
  apply distinct'.label_not_mem_take late
  rw [← label, ← same.map_label_take distinct']
  exact List.mem_map_of_mem early

/-- The cheapest script begins with the variables that stay, whatever it costs. -/
theorem diagonal_prefix (same : SameHead older newer count) (distinct : DistinctLabels older)
    (distinct' : DistinctLabels newer) (costs : Option Costs) :
    diagonal (older.slots.take count) (newer.slots.take count) <+:
      (cheapestScript costs older newer).steps := by
  have begins := diagonal_prefix_cheapest (costs.getD .standard) same.correspond
    (older.slots.drop count) (newer.slots.drop count) (same.apart_drop_take distinct distinct')
    (same.apart_take_drop distinct')
  rw [List.take_append_drop, List.take_append_drop] at begins
  exact begins

/-- Equal variables are listed where they are asked for, and the script begins with them. -/
theorem listsHead (same : SameHead older newer count) (distinct : DistinctLabels older)
    (distinct' : DistinctLabels newer) (costs : Option Costs) :
    ListsHead older newer count
      ((cheapestScript costs older newer).steps.filter fun change => !change.isAppend) := by
  intro k early
  obtain ⟨first, second, here, there, -⟩ := same k early
  have begins := (same.diagonal_prefix distinct distinct' costs).filter
    fun change => !change.isAppend
  have kept : (diagonal (older.slots.take count) (newer.slots.take count)).filter
      (fun change => !change.isAppend) =
        diagonal (older.slots.take count) (newer.slots.take count) := by
    rw [List.filter_eq_self]
    intro change member
    obtain ⟨entry, -, rfl⟩ := List.mem_map.1 member
    rfl
  have paired := getElem?_diagonal (List.getElem?_take_of_lt early ▸ here)
    (List.getElem?_take_of_lt early ▸ there)
  obtain ⟨rest, parts⟩ := begins
  refine ⟨first, second, here, there, ?_⟩
  rw [← parts, kept, List.getElem?_append_left (List.getElem?_eq_some_iff.1 paired).1]
  exact paired

end SameHead

/-- Variables at the heads that stay the same are listed as equal, each in its place, whatever the
changes cost. The only changes that have no list are those whose least cost is too long to be
written. -/
theorem changes_head (costs : Option Costs) (older newer : Layout) (count : Nat)
    (distinct : DistinctLabels older) (distinct' : DistinctLabels newer)
    (same : SameHead older newer count) :
    ∃ least, IsLeast (scriptCosts costs older newer) least ∧
      ((least < 10 ^ Numeral.longest ∧ ∃ listed,
          (changes ⟨costs, true⟩ older newer).result = .ok listed ∧
            ListsHead older newer count listed) ∨
        (10 ^ Numeral.longest ≤ least ∧
          (changes ⟨costs, true⟩ older newer).result = .error (.numberTooLong none))) := by
  apply exists_least_of_writable
  · intro writable
    refine ⟨_, ?_, same.listsHead distinct distinct' costs⟩
    rw [changes_of_writable ⟨costs, true⟩ older newer writable, isListed_everything]
  · intro long
    exact changes_of_not_writable ⟨costs, true⟩ older newer long

def renewedCounters : Layout :=
  .ofLabelled
    [(⟨.text "V", .text "a", "t_uint256"⟩, .text "uint256"),
      (⟨.text "V", .text "x", "t_uint256"⟩, .text "uint256"),
      (⟨.text "V", .text "y", "t_uint256"⟩, .text "uint256")]

theorem distinctLabels_of_texts {layout : Layout} (texts : List String)
    (labels : layout.slots.map Slot.label = texts.map Value.text) (nodup : texts.Nodup) :
    DistinctLabels layout where
  textual := by
    intro slot member
    have label : slot.label ∈ layout.slots.map Slot.label := List.mem_map_of_mem member
    rw [labels] at label
    obtain ⟨text, -, same⟩ := List.mem_map.1 label
    exact ⟨text, same.symm⟩
  nodup := by
    rw [labels]
    exact nodup.map fun _ _ => Value.text.inj

theorem sameHead_renewedCounters : SameHead twoCounters renewedCounters 1 := by
  intro k early
  obtain rfl := Nat.lt_one_iff.1 early
  exact ⟨_, _, rfl, rfl, rfl, _, _, rfl, rfl, rfl⟩

theorem isLeast_renewedCounters : IsLeast (scriptCosts none twoCounters renewedCounters) 2 := by
  have cost : (cheapestScript none twoCounters renewedCounters).cost = 2 := rfl
  rw [← cost]
  exact isLeast_cheapestScript none twoCounters renewedCounters

/-- The variable behind the first one can be taken for either of the new ones, but the first one is
listed as equal. -/
theorem changes_head_renewed :
    DistinctLabels twoCounters ∧ DistinctLabels renewedCounters ∧
      SameHead twoCounters renewedCounters 1 ∧
      IsLeast (scriptCosts none twoCounters renewedCounters) 2 ∧ 2 < 10 ^ Numeral.longest ∧
      ∃ listed, (changes ⟨none, true⟩ twoCounters renewedCounters).result = .ok listed ∧
        ListsHead twoCounters renewedCounters 1 listed := by
  have distinct : DistinctLabels twoCounters :=
    distinctLabels_of_texts ["a", "b"] rfl (by decide)
  have distinct' : DistinctLabels renewedCounters :=
    distinctLabels_of_texts ["a", "x", "y"] rfl (by decide)
  have short : 2 < 10 ^ Numeral.longest := Numeral.lt_of_two_digits (by decide)
  obtain ⟨least, isLeast, given⟩ :=
    changes_head none twoCounters renewedCounters 1 distinct distinct' sameHead_renewedCounters
  obtain rfl := isLeast.unique isLeast_renewedCounters
  obtain ⟨-, listed, given, lists⟩ | ⟨long, -⟩ := given
  · exact ⟨distinct, distinct', sameHead_renewedCounters, isLeast, short, listed, given, lists⟩
  · exact absurd short (Nat.not_lt.2 long)

end StorageCompat.Upgrade
