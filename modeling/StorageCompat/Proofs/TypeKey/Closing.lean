import StorageCompat.Proofs.TypeKey.Renumbering

/-!
Where parentheses are closed, by counting. The scan for the parenthesis that closes the first one
opened stops where, for the first time, as many have been closed as opened; and the first declared
type that is not closed is missing exactly if each one in the text has such a place behind it.
-/

namespace StorageCompat.TypeKey

/-- Induction on a text by what its characters do to the count of open parentheses. -/
@[elab_as_elim]
theorem scan_induction {motive : List Char → Prop} (nil : motive [])
    (opening : ∀ rest, motive rest → motive ('(' :: rest))
    (closing : ∀ rest, motive rest → motive (')' :: rest))
    (other : ∀ character rest, character ≠ '(' → character ≠ ')' → motive rest →
      motive (character :: rest)) (text : List Char) : motive text := by
  induction text with
  | nil => exact nil
  | cons character rest ih =>
      by_cases opens : character = '('
      · rw [opens]
        exact opening rest ih
      by_cases closes : character = ')'
      · rw [closes]
        exact closing rest ih
      · exact other character rest opens closes ih

/-- Behind `depth` opened parentheses, as many are closed as opened for the first time at the end of
this text. -/
structure Closing (depth : Nat) (front : List Char) : Prop where
  level : front.count '(' + depth = front.count ')'
  first : ∀ part, part <+: front → part ≠ front → part.count ')' < part.count '(' + depth

def AllClosed (text : List Char) : Prop :=
  ∀ before, ∀ word ∈ declaredKinds, ∀ rest, text = before ++ (word ++ rest) →
    ∃ front, front <+: rest ∧ Closing 1 front

/-- The last character is the parenthesis that closes that of a declared type. -/
def EndsDeclared (text : List Char) : Prop :=
  ∃ before, ∃ word ∈ declaredKinds, ∃ inner, Closing 1 inner ∧ text = before ++ (word ++ inner)

theorem closing_nil_iff (depth : Nat) : Closing depth [] ↔ depth = 0 := by
  constructor
  · intro closing
    have level := closing.level
    rwa [List.count_nil, List.count_nil, Nat.zero_add] at level
  · intro level
    refine ⟨by rw [level]; rfl, ?_⟩
    intro part initial proper
    exact absurd (List.prefix_nil.1 initial) proper

theorem closing_cons_iff {depth depth' : Nat} (character : Char) (front : List Char)
    (opened : 0 < depth)
    (counted : [character].count '(' + depth = [character].count ')' + depth') :
    Closing depth (character :: front) ↔ Closing depth' front := by
  have count (symbol : Char) (text : List Char) :
      (character :: text).count symbol = [character].count symbol + text.count symbol := by
    rw [← List.count_append, List.singleton_append]
  constructor
  · intro closing
    have level := closing.level
    rw [count '(' front, count ')' front] at level
    refine ⟨by omega, ?_⟩
    intro part initial proper
    have fewer := closing.first (character :: part) (List.cons_prefix_cons.2 ⟨rfl, initial⟩)
      (fun same => proper (List.cons.inj same).2)
    rw [count '(' part, count ')' part] at fewer
    omega
  · intro closing
    have level := closing.level
    refine ⟨by rw [count '(' front, count ')' front]; omega, ?_⟩
    intro part initial proper
    cases part with
    | nil => exact Nat.add_pos_right _ opened
    | cons other part =>
        obtain ⟨rfl, later⟩ := List.cons_prefix_cons.1 initial
        have fewer := closing.first part later fun same => proper (congrArg _ same)
        rw [count '(' part, count ')' part]
        omega

theorem closing_opening_iff (depth : Nat) (front : List Char) :
    Closing (depth + 1) ('(' :: front) ↔ Closing (depth + 2) front :=
  closing_cons_iff '(' front (Nat.succ_pos depth) (by simp; omega)

theorem closing_closing_iff (depth : Nat) (front : List Char) :
    Closing (depth + 1) (')' :: front) ↔ Closing depth front :=
  closing_cons_iff ')' front (Nat.succ_pos depth) (by simp; omega)

theorem closing_other_iff (depth : Nat) {character : Char} (front : List Char)
    (notOpening : character ≠ '(') (notClosing : character ≠ ')') :
    Closing (depth + 1) (character :: front) ↔ Closing (depth + 1) front :=
  closing_cons_iff character front (Nat.succ_pos depth) (by simp [notOpening, notClosing])

theorem closing_append_iff (depth : Nat) {plain front : List Char} (noOpening : '(' ∉ plain)
    (noClosing : ')' ∉ plain) :
    Closing (depth + 1) (plain ++ front) ↔ Closing (depth + 1) front := by
  induction plain with
  | nil => rfl
  | cons character rest ih =>
      obtain ⟨notOpening, noOpening⟩ := not_or.1 (mt List.mem_cons.2 noOpening)
      obtain ⟨notClosing, noClosing⟩ := not_or.1 (mt List.mem_cons.2 noClosing)
      rw [List.cons_append, closing_other_iff _ _ (Ne.symm notOpening) (Ne.symm notClosing),
        ih noOpening noClosing]

theorem closing_zero_iff (front : List Char) : Closing 0 front ↔ front = [] := by
  constructor
  · intro closing
    by_contra proper
    cases closing.first [] List.nil_prefix (Ne.symm proper)
  · intro empty
    rw [empty]
    exact (closing_nil_iff 0).2 rfl

namespace Closing

variable {depth : Nat} {front : List Char}

theorem exists_append (closing : Closing (depth + 1) front) : ∃ inner, front = inner ++ [')'] := by
  obtain rfl | ⟨inner, last, rfl⟩ := List.eq_nil_or_concat' front
  · cases (closing_nil_iff _).1 closing
  have fewer := closing.first inner (List.prefix_append _ _) (by simp)
  have level := closing.level
  rw [List.count_append, List.count_append] at level
  have closed : 0 < [last].count ')' := by omega
  have same := List.mem_singleton.1 (List.count_pos_iff.1 closed)
  exact ⟨inner, by rw [← same]⟩

theorem not_inner {before inner : List Char}
    (closing : Closing (depth + 1) (before ++ '(' :: inner)) : ¬Closing 1 inner := by
  intro closing'
  have level := closing.level
  have level' := closing'.level
  have fewer := closing.first before (List.prefix_append _ _) (by simp)
  rw [List.count_append, List.count_append, List.count_cons_self,
    List.count_cons_of_ne (by decide)] at level
  omega

end Closing

theorem exists_closing_cons_iff (depth : Nat) (character : Char) (rest : List Char) :
    (∃ front, front <+: character :: rest ∧ Closing (depth + 1) front) ↔
      ∃ front, front <+: rest ∧ Closing (depth + 1) (character :: front) := by
  constructor
  · intro closed
    obtain ⟨front, initial, closing⟩ := closed
    cases front with
    | nil => cases (closing_nil_iff _).1 closing
    | cons other front =>
        obtain ⟨rfl, later⟩ := List.cons_prefix_cons.1 initial
        exact ⟨front, later, closing⟩
  · intro closed
    obtain ⟨front, initial, closing⟩ := closed
    exact ⟨_, List.cons_prefix_cons.2 ⟨rfl, initial⟩, closing⟩

theorem closes_iff (depth : Nat) (text : List Char) :
    closes (depth + 1) text = true ↔ ∃ front, front <+: text ∧ Closing (depth + 1) front := by
  induction text using scan_induction generalizing depth with
  | nil =>
      constructor
      · intro absurd
        cases absurd
      · intro closed
        obtain ⟨front, initial, closing⟩ := closed
        obtain rfl := List.prefix_nil.1 initial
        cases (closing_nil_iff _).1 closing
  | opening rest ih =>
      rw [exists_closing_cons_iff]
      simp only [closing_opening_iff, closes_opening, ih]
  | closing rest ih =>
      rw [exists_closing_cons_iff]
      simp only [closing_closing_iff]
      cases depth with
      | zero => exact ⟨fun _ => ⟨[], List.nil_prefix, (closing_nil_iff 0).2 rfl⟩, fun _ => rfl⟩
      | succ depth => exact ih depth
  | other character rest notOpening notClosing ih =>
      rw [exists_closing_cons_iff]
      simp only [closing_other_iff _ _ notOpening notClosing,
        closes_other _ _ notOpening notClosing, ih]

theorem opensDeclared_iff (text : List Char) :
    opensDeclared text = true ↔ ∃ word ∈ declaredKinds, ∃ rest, text = word ++ rest := by
  simp only [opensDeclared, List.any_eq_true, List.isPrefixOf_iff_prefix]
  apply exists_congr
  intro word
  apply and_congr_right
  intro _
  exact exists_congr fun rest => eq_comm

theorem word_ne_nil {word : List Char} (member : word ∈ declaredKinds) : word ≠ [] := by
  have words : ∀ word ∈ declaredKinds, word ≠ [] := by decide
  exact words word member

theorem closes_word {word : List Char} (member : word ∈ declaredKinds) (rest : List Char) :
    closes 0 (word ++ rest) = closes 1 rest := by
  simp only [declaredKinds, List.mem_cons, List.not_mem_nil, or_false] at member
  rcases member with rfl | rfl | rfl <;> rfl

theorem allClosed_cons_iff (character : Char) (rest : List Char) :
    AllClosed (character :: rest) ↔
      (opensDeclared (character :: rest) = true → closes 0 (character :: rest) = true) ∧
        AllClosed rest := by
  constructor
  · intro closed
    constructor
    · intro opens
      obtain ⟨word, member, later, same⟩ := (opensDeclared_iff _).1 opens
      rw [same, closes_word member]
      exact (closes_iff 0 later).2 (closed [] word member later same)
    · intro before word member later same
      exact closed (character :: before) word member later (congrArg _ same)
  · intro closed before word member later same
    cases before with
    | nil =>
        have closes := closed.1 ((opensDeclared_iff _).2 ⟨word, member, later, same⟩)
        rw [same, List.nil_append, closes_word member] at closes
        exact (closes_iff 0 later).1 closes
    | cons other before =>
        exact closed.2 before word member later (List.cons.inj same).2

/-- A text is refused exactly if some declared type in it is not closed. -/
theorem firstUnclosed?_eq_none_iff (text : List Char) :
    firstUnclosed? text = none ↔ AllClosed text := by
  induction text with
  | nil =>
      constructor
      · intro _ before word member rest same
        have parts := List.append_eq_nil_iff.1 (List.append_eq_nil_iff.1 same.symm).2
        exact absurd parts.1 (word_ne_nil member)
      · intro _
        rfl
  | cons character rest ih =>
      rw [firstUnclosed?_cons_eq_none_iff, allClosed_cons_iff, ih]

end StorageCompat.TypeKey
