import StorageCompat.Proofs.Upgrade.Report

/-!
What the list of changes says. Every old variable has its place in it, in order, and what a change
says of the variables that it pairs is so. Equal variables are left out of a list that does not ask
for them, and nothing else differs.
-/

open StorageCompat.Alignment

namespace StorageCompat.Upgrade

def SameLabel (first second : Slot) : Prop :=
  first.label.same second.label = true

def SameTypeLabel (older newer : Layout) (first second : Slot) : Prop :=
  ∃ firstType secondType, older.typeLabel first = .ok firstType ∧
    newer.typeLabel second = .ok secondType ∧ firstType.same secondType = true

def Means (older newer : Layout) (first second : Slot) : Pairing → Prop
  | .equal => SameLabel first second ∧ SameTypeLabel older newer first second
  | .typeChange => SameLabel first second ∧ ¬SameTypeLabel older newer first second
  | .rename => ¬SameLabel first second ∧ SameTypeLabel older newer first second
  | .replace => ¬SameLabel first second ∧ ¬SameTypeLabel older newer first second

/-- The change pairs two variables and says what they share, or deletes one; it names the places
where they stand. -/
inductive Accurate (older newer : Layout) : Change → Prop where
  | pair {pairing : Pairing} {i j : Nat} {first second : Slot}
      (here : older.slots[i]? = some first) (there : newer.slots[j]? = some second)
      (means : Means older newer first second pairing) :
      Accurate older newer (.pair pairing i first j second)
  | delete {i : Nat} {first : Slot} (here : older.slots[i]? = some first) :
      Accurate older newer (.delete i first)

/-- The changes go through all old variables in order, some of them with a new one, and each says
what is so. -/
structure Accounts (older newer : Layout) (listed : List Change) : Prop where
  olderIndices : listed.map Step.olderIndex? = (List.range older.slots.length).map some
  newerIndices : (listed.filterMap Step.newerIndex?).Pairwise (· < ·)
  withoutAdditions : ∀ change ∈ listed, change.action ≠ .append
  accurate : ∀ change ∈ listed, Accurate older newer change

theorem means_pairing {older newer : Layout} {first second : Slot} {sameLabel sameType : Bool}
    (label : sameLabel = true ↔ SameLabel first second)
    (type : sameType = true ↔ SameTypeLabel older newer first second) :
    Means older newer first second (pairing sameLabel sameType) := by
  cases sameLabel <;> cases sameType <;> simp only [pairing, Means, ← label, ← type] <;> decide

theorem means_slotPairing (older newer : Layout) {first second : Slot}
    (known : first ∈ older.slots) (present : second ∈ newer.slots) :
    Means older newer first second (slotPairing older newer first second) := by
  obtain ⟨firstType, firstLabel⟩ := older.typeLabel_eq_ok first known
  obtain ⟨secondType, secondLabel⟩ := newer.typeLabel_eq_ok second present
  rw [slotPairing, firstLabel, secondLabel]
  apply means_pairing Iff.rfl
  constructor
  · intro same
    exact ⟨_, _, firstLabel, secondLabel, same⟩
  · rintro ⟨_, _, given, given', same⟩
    rw [firstLabel] at given
    rw [secondLabel] at given'
    cases given
    cases given'
    exact same

/-- A step that is faithful to the comparison says what is so, unless it adds a variable. -/
theorem Accurate.of_faithful {older newer : Layout} {change : Change}
    (faithful : change.Faithful (slotPairing older newer) older.slots newer.slots)
    (kept : change.action ≠ .append) : Accurate older newer change := by
  cases change with
  | pair pairing i first j second =>
      obtain ⟨first', second', here, there, action⟩ := faithful.compared i j rfl rfl
      have older_element : some first = older.slots[i]? := faithful.older_element
      have newer_element : some second = newer.slots[j]? := faithful.newer_element
      have means := means_slotPairing older newer (List.mem_of_getElem? here)
        (List.mem_of_getElem? there)
      rw [here] at older_element
      rw [there] at newer_element
      cases older_element
      cases newer_element
      cases action
      exact .pair here there means
  | delete i first => exact .delete faithful.older_element.symm
  | append j second => exact absurd rfl kept

theorem isListed_everything (costs : Option Costs) :
    isListed ⟨costs, true⟩ = fun change => !change.isAppend := by
  funext change
  rw [isListed, Bool.true_or, Bool.and_true]

theorem accounts_listed (costs : Option Costs) (older newer : Layout) :
    Accounts older newer
      ((cheapestScript costs older newer).steps.filter fun change => !change.isAppend) := by
  have path := cheapest_isScript (costs.getD .standard) (slotPairing older newer) older.slots
    newer.slots
  have kept (change : Change) (member : change ∈ (cheapestScript costs older newer).steps.filter
      fun change => !change.isAppend) : change.action ≠ .append := by
    have notAppend := (List.mem_filter.1 member).2
    rw [Bool.not_eq_true', Step.isAppend, beq_eq_false_iff_ne] at notAppend
    exact notAppend
  exact {
    olderIndices := path.olderIndices_kept
    newerIndices := path.newerIndices_kept _
    withoutAdditions := kept
    accurate := by
      intro change member
      have faithful := path.faithful change (List.mem_of_mem_filter member)
      exact .of_faithful faithful (kept change member) }

theorem filter_isListed_brief (costs : Option Costs) (steps : List Change) :
    steps.filter (isListed ⟨costs, false⟩) =
      (steps.filter fun change => !change.isAppend).filter fun change => !change.isEqual := by
  rw [List.filter_filter]
  apply List.filter_congr
  intro change _
  rw [isListed, Bool.false_or, Bool.and_comm]

/-- The list of changes goes through all old variables in order, and what it says of them is so.
It is the same list that leaves out equal variables and says nothing else. The only changes that
have no list are those whose least cost is too long to be written. -/
theorem changes_account (costs : Option Costs) (older newer : Layout) :
    ∃ least, IsLeast (scriptCosts costs older newer) least ∧
      ((least < 10 ^ Numeral.longest ∧ ∃ listed,
          (changes ⟨costs, true⟩ older newer).result = .ok listed ∧
            Accounts older newer listed ∧
            (changes ⟨costs, false⟩ older newer).result =
              .ok (listed.filter fun change => !change.isEqual)) ∨
        (10 ^ Numeral.longest ≤ least ∧ ∀ includeEqual,
          (changes ⟨costs, includeEqual⟩ older newer).result = .error (.numberTooLong none))) := by
  apply exists_least_of_writable
  · intro writable
    refine ⟨_, ?_, accounts_listed costs older newer, ?_⟩
    · rw [changes_of_writable ⟨costs, true⟩ older newer writable, isListed_everything]
    · rw [changes_of_writable ⟨costs, false⟩ older newer writable, filter_isListed_brief]
  · intro long includeEqual
    exact changes_of_not_writable ⟨costs, includeEqual⟩ older newer long

end StorageCompat.Upgrade
