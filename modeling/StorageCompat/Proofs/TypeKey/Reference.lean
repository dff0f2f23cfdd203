import StorageCompat.Proofs.TypeKey.Closing

/-!
Which characters are erased, said of the text as it was. A number, with an underscore behind it if
there is one, is erased where it stands behind the parenthesis that closes a declared type, as far
as it goes; nothing else is. What was erased further in never decides where else something is.
-/

namespace StorageCompat.TypeKey

def IsId (text : List Char) : Prop :=
  ∃ number, IsNumber number ∧ (text = number ∨ text = number ++ ['_'])

/-- The longest number at the front of a text, with the underscore behind it if there is one. -/
structure LongestId (id text : List Char) : Prop where
  isId : IsId id
  front : id <+: text
  longest : ∀ other, IsId other → other <+: text → other.length ≤ id.length

namespace IsId

variable {id : List Char}

theorem exists_digit (isId : IsId id) :
    ∃ digit rest, id = digit :: rest ∧ Text.isDecimalDigit digit = true := by
  obtain ⟨number, isNumber, known⟩ := isId
  obtain ⟨digit, rest, rfl⟩ := List.exists_cons_of_ne_nil isNumber.nonempty
  have decimal := isNumber.decimal digit List.mem_cons_self
  rcases known with rfl | rfl
  · exact ⟨digit, rest, rfl, decimal⟩
  · exact ⟨digit, rest ++ ['_'], rfl, decimal⟩

theorem not_endsNumber (isId : IsId id) (rest : List Char) : ¬EndsNumber (id ++ rest) := by
  obtain ⟨digit, later, rfl, decimal⟩ := isId.exists_digit
  intro ends
  have other := ends digit rfl
  rw [decimal] at other
  cases other

theorem plain (isId : IsId id) :
    ∀ character ∈ id, character ≠ '(' ∧ character ≠ ')' ∧ character ≠ 't' := by
  obtain ⟨number, isNumber, known⟩ := isId
  have digits : ∀ character ∈ number, character ≠ '(' ∧ character ≠ ')' ∧ character ≠ 't' := by
    intro character member
    have decimal := isNumber.decimal character member
    obtain ⟨notOpening, notClosing⟩ := not_parenthesis_of_digit decimal
    refine ⟨notOpening, notClosing, ?_⟩
    intro same
    rw [same] at decimal
    exact absurd decimal (by decide)
  rcases known with rfl | rfl
  · exact digits
  · intro character member
    rcases List.mem_append.1 member with known | known
    · exact digits character known
    · rw [List.mem_singleton.1 known]
      decide

theorem not_parenthesis (isId : IsId id) : '(' ∉ id ∧ ')' ∉ id :=
  ⟨fun member => (isId.plain _ member).1 rfl, fun member => (isId.plain _ member).2.1 rfl⟩

end IsId

/-- A number at the front of a longer text ends where the text's own does. -/
theorem IsNumber.prefix_of_prefix {number other rest : List Char} (isNumber : IsNumber other)
    (ends : EndsNumber rest) (front : other <+: number ++ rest) : other <+: number := by
  rcases List.prefix_or_prefix_of_prefix front (List.prefix_append number rest) with
    initial | ⟨later, rfl⟩
  · exact initial
  cases later with
  | nil => rw [List.append_nil]
  | cons digit later =>
      rw [List.prefix_append_right_inj] at front
      obtain ⟨behind, rfl⟩ := front
      have decimal := isNumber.decimal digit (by simp)
      rw [ends digit rfl] at decimal
      cases decimal

theorem exists_number {text : List Char} (starts : ¬EndsNumber text) :
    ∃ number rest, text = number ++ rest ∧ IsNumber number ∧ EndsNumber rest := by
  refine ⟨text.takeWhile Text.isDecimalDigit, text.dropWhile Text.isDecimalDigit,
    List.takeWhile_append_dropWhile.symm, ⟨?_, ?_⟩, ?_⟩
  · obtain ⟨digit, member, decimal⟩ := not_forall₂.1 starts
    rw [Bool.not_eq_false] at decimal
    obtain ⟨rest, rfl⟩ := List.head?_eq_some_iff.1 member
    rw [List.takeWhile_cons_of_pos decimal]
    exact List.cons_ne_nil _ _
  · intro digit member
    exact List.mem_takeWhile_imp member
  · intro character member
    have nonempty : text.dropWhile Text.isDecimalDigit ≠ [] := by
      intro absurd
      rw [absurd] at member
      cases member
    have stops := List.head_dropWhile_not Text.isDecimalDigit nonempty
    rw [List.head?_eq_some_head nonempty] at member
    cases member
    exact stops

theorem longestId_underscore {number : List Char} (isNumber : IsNumber number)
    (rest : List Char) : LongestId (number ++ ['_']) (number ++ '_' :: rest) where
  isId := ⟨number, isNumber, Or.inr rfl⟩
  front := ⟨rest, by simp⟩
  longest := by
    intro other isId front
    have ends : EndsNumber ('_' :: rest) := by
      intro character member
      cases member
      exact Text.isDecimalDigit_underscore
    obtain ⟨number', isNumber', known⟩ := isId
    have initial : number' <+: other := by
      rcases known with rfl | rfl
      · exact List.prefix_rfl
      · exact List.prefix_append _ _
    have shorter := (isNumber'.prefix_of_prefix ends (initial.trans front)).length_le
    rcases known with rfl | rfl
    · rw [List.length_append]
      exact Nat.le_add_right_of_le shorter
    · rw [List.length_append, List.length_append]
      exact Nat.add_le_add_right shorter 1

theorem longestId_plain {number rest : List Char} (isNumber : IsNumber number)
    (ends : EndsNumber rest) (bare : rest.head? ≠ some '_') :
    LongestId number (number ++ rest) where
  isId := ⟨number, isNumber, Or.inl rfl⟩
  front := List.prefix_append _ _
  longest := by
    intro other isId front
    obtain ⟨number', isNumber', known⟩ := isId
    rcases known with rfl | rfl
    · exact (isNumber'.prefix_of_prefix ends front).length_le
    obtain ⟨later, rfl⟩ := isNumber'.prefix_of_prefix ends ((List.prefix_append _ _).trans front)
    rw [List.append_assoc, List.prefix_append_right_inj] at front
    cases later with
    | nil =>
        rw [List.nil_append] at front
        obtain ⟨behind, rfl⟩ := front
        exact absurd rfl bare
    | cons digit later =>
        have more : 0 < (digit :: later).length := Nat.succ_pos _
        rw [List.length_append, List.length_append]
        exact Nat.add_le_add_left more _

theorem dropUnderscore_of_head? {text : List Char} (bare : text.head? ≠ some '_') :
    dropUnderscore text = text := by
  cases text with
  | nil => rfl
  | cons character rest =>
      exact dropUnderscore_cons_ne rest fun same => bare (congrArg some same)

/-- A text that starts with a digit starts with an id. This is dropped from any text in which the
same character follows on it, or none. -/
theorem exists_longestId {text : List Char} (starts : ¬EndsNumber text) :
    ∃ id rest, text = id ++ rest ∧ LongestId id (id ++ rest) ∧
      ∀ other, (∀ character ∈ other.head?, character ∈ rest.head?) →
        dropId (id ++ other) = other := by
  obtain ⟨number, rest, rfl, isNumber, ends⟩ := exists_number starts
  by_cases underscore : rest.head? = some '_'
  · obtain ⟨rest, rfl⟩ := List.head?_eq_some_iff.1 underscore
    refine ⟨number ++ ['_'], rest, by simp, ?_, ?_⟩
    · rw [List.append_assoc]
      exact longestId_underscore isNumber rest
    · intro other _
      have ends' : EndsNumber ('_' :: other) := endsNumber_of_head? rfl ends
      rw [List.append_assoc]
      exact isNumber.dropId_append ends'
  · refine ⟨number, rest, rfl, longestId_plain isNumber ends underscore, ?_⟩
    intro other same
    have ends' : EndsNumber other := fun character member => ends character (same character member)
    rw [isNumber.dropId_append ends', dropUnderscore_of_head? (mt (same '_') underscore)]

/-- The text without the ids behind some of its fronts. Each front is looked at in the text as it
was. -/
inductive Erased : (ends : List Char → Prop) → List Char → List Char → Prop where
  | nil {ends : List Char → Prop} : Erased ends [] []
  | keep {ends : List Char → Prop} {character : Char} {rest result : List Char}
      (stays : ends [] → EndsNumber (character :: rest))
      (later : Erased (fun front => ends (character :: front)) rest result) :
      Erased ends (character :: rest) (character :: result)
  | drop {ends : List Char → Prop} {id rest result : List Char} (here : ends [])
      (longest : LongestId id (id ++ rest))
      (later : Erased (fun front => ends (id ++ front)) rest result) :
      Erased ends (id ++ rest) result

def Parenthetic (ends : List Char → Prop) : Prop :=
  ∀ front, ends front → front ≠ [] → ∃ inner, front = inner ++ [')']

namespace Parenthetic

variable {ends : List Char → Prop}

theorem append (parenthetic : Parenthetic ends) (before : List Char) :
    Parenthetic fun front => ends (before ++ front) := by
  intro front known nonempty
  obtain ⟨inner, same⟩ := parenthetic _ known (by simp [nonempty])
  obtain rfl | ⟨initial, last, rfl⟩ := List.eq_nil_or_concat' front
  · exact absurd rfl nonempty
  rw [← List.append_assoc] at same
  obtain ⟨-, same⟩ := List.append_inj' same rfl
  exact ⟨initial, by rw [same]⟩

theorem cons (parenthetic : Parenthetic ends) (character : Char) :
    Parenthetic fun front => ends (character :: front) :=
  parenthetic.append [character]

theorem not_plain (parenthetic : Parenthetic ends) {front : List Char} (nonempty : front ≠ [])
    (plain : ')' ∉ front) : ¬ends front := by
  intro known
  obtain ⟨inner, rfl⟩ := parenthetic front known nonempty
  exact plain (by simp)

end Parenthetic

namespace Erased

variable {ends ends' : List Char → Prop} {text rest result : List Char}

theorem congr (erased : Erased ends text result)
    (same : ∀ front, front <+: text → (ends front ↔ ends' front)) :
    Erased ends' text result := by
  induction erased generalizing ends' with
  | nil => exact .nil
  | keep stays _ ih =>
      refine .keep (fun here => stays ((same [] List.nil_prefix).2 here)) (ih ?_)
      intro front initial
      exact same _ (List.cons_prefix_cons.2 ⟨rfl, initial⟩)
  | drop here longest _ ih =>
      refine .drop ((same [] List.nil_prefix).1 here) longest (ih ?_)
      intro front initial
      exact same _ ((List.prefix_append_right_inj _).2 initial)

theorem head?_eq (erased : Erased ends text result) (stays : ¬ends []) :
    result.head? = text.head? := by
  cases erased with
  | nil => rfl
  | keep => rfl
  | drop here => exact absurd here stays

theorem append {before : List Char}
    (untouched : ∀ part, part <+: before → part ≠ before → ¬ends part)
    (erased : Erased (fun front => ends (before ++ front)) rest result) :
    Erased ends (before ++ rest) (before ++ result) := by
  induction before generalizing ends with
  | nil => exact erased
  | cons character before ih =>
      have here := untouched [] List.nil_prefix (List.cons_ne_nil _ _).symm
      refine .keep (fun known => absurd known here) (ih ?_ erased)
      intro part initial proper
      exact untouched _ (List.cons_prefix_cons.2 ⟨rfl, initial⟩)
        (fun same => proper (List.cons.inj same).2)

theorem of_append {before : List Char}
    (untouched : ∀ part, part <+: before → part ≠ before → ¬ends part)
    (erased : Erased ends (before ++ rest) result) :
    ∃ later, result = before ++ later ∧
      Erased (fun front => ends (before ++ front)) rest later := by
  induction before generalizing ends result with
  | nil => exact ⟨result, rfl, erased⟩
  | cons character before ih =>
      have here := untouched [] List.nil_prefix (List.cons_ne_nil _ _).symm
      generalize whole : character :: before ++ rest = text at erased
      cases erased with
      | nil => cases whole
      | drop known => exact absurd known here
      | keep _ behind =>
          obtain ⟨rfl, rfl⟩ := List.cons.inj whole
          obtain ⟨later, rfl, erased⟩ := ih (by
            intro part initial proper
            exact untouched _ (List.cons_prefix_cons.2 ⟨rfl, initial⟩)
              (fun same => proper (List.cons.inj same).2)) behind
          exact ⟨later, rfl, erased⟩

theorem dropId (erased : Erased ends text result) (parenthetic : Parenthetic ends)
    (stays : ¬ends []) : Erased (fun front => ends front ∨ front = []) text (dropId result) := by
  by_cases number : EndsNumber text
  · rw [dropId_of_endsNumber (endsNumber_of_head? (erased.head?_eq stays) number)]
    cases erased with
    | nil => exact .nil
    | drop here => exact absurd here stays
    | keep _ later =>
        refine .keep (fun _ => number) (later.congr fun front _ => ?_)
        exact ⟨Or.inl, fun known => known.resolve_right (List.cons_ne_nil _ _)⟩
  obtain ⟨id, rest, rfl, longest, dropped⟩ := exists_longestId number
  have plain := longest.isId.not_parenthesis.2
  obtain ⟨digit, others, same, -⟩ := longest.isId.exists_digit
  have nonempty : id ≠ [] := same ▸ List.cons_ne_nil digit others
  have untouched : ∀ part, part <+: id → part ≠ id → ¬ends part := by
    intro part initial _
    by_cases empty : part = []
    · rw [empty]
      exact stays
    · exact parenthetic.not_plain empty fun member => plain (initial.subset member)
  obtain ⟨later, rfl, behind⟩ := erased.of_append untouched
  have whole : ¬ends (id ++ []) := by
    rw [List.append_nil]
    exact parenthetic.not_plain nonempty plain
  rw [dropped later fun character member => behind.head?_eq whole ▸ member]
  refine .drop (Or.inr rfl) longest (behind.congr fun front _ => ?_)
  exact ⟨Or.inl, fun known => known.resolve_right (by simp [nonempty])⟩

/-- What stands behind the parenthesis that closes the first one opened is erased too. -/
theorem dropIdBehind (erased : Erased ends text result) (parenthetic : Parenthetic ends)
    (depth : Nat) (apart : ∀ front, Closing (depth + 1) front → ¬ends front) :
    Erased (fun front => ends front ∨ Closing (depth + 1) front) text
      (dropIdBehind (depth + 1) result) := by
  induction erased generalizing depth with
  | nil => exact .nil
  | @keep ends character rest result stays later ih =>
      have still : ends [] ∨ Closing (depth + 1) [] → EndsNumber (character :: rest) := by
        intro known
        rcases known with known | closing
        · exact stays known
        · cases (closing_nil_iff _).1 closing
      by_cases opening : character = '('
      · subst opening
        rw [dropIdBehind_opening]
        refine .keep still ?_
        simp only [closing_opening_iff]
        apply ih (parenthetic.cons _)
        intro front closing
        exact apart _ ((closing_opening_iff _ _).2 closing)
      by_cases closing : character = ')'
      · subst closing
        cases depth with
        | zero =>
            -- Here the count is level: what follows is the id to erase, and no front is further on.
            refine .keep still ?_
            simp only [closing_closing_iff, closing_zero_iff]
            apply later.dropId (parenthetic.cons _)
            exact apart [')'] ((closing_closing_iff _ _).2 ((closing_zero_iff _).2 rfl))
        | succ depth =>
            refine .keep still ?_
            simp only [closing_closing_iff]
            apply ih (parenthetic.cons _)
            intro front closing
            exact apart _ ((closing_closing_iff _ _).2 closing)
      · rw [dropIdBehind_other _ _ opening closing]
        refine .keep still ?_
        simp only [closing_other_iff _ _ opening closing]
        apply ih (parenthetic.cons _)
        intro front closes
        exact apart _ ((closing_other_iff _ _ opening closing).2 closes)
  | @drop ends id rest result here longest later ih =>
      obtain ⟨noOpening, noClosing⟩ := longest.isId.not_parenthesis
      refine .drop (Or.inl here) longest ?_
      simp only [closing_append_iff _ noOpening noClosing]
      apply ih (parenthetic.append _)
      intro front closing
      exact apart _ ((closing_append_iff _ noOpening noClosing).2 closing)

end Erased

theorem word_of_part : ∀ word ∈ declaredKinds, ∀ part ∈ word.tails, part ≠ [] →
    ∀ other ∈ declaredKinds, part <+: other ∨ other <+: part → part = word ∧ other = word := by
  decide

namespace EndsDeclared

theorem parenthetic : Parenthetic EndsDeclared := by
  intro front known _
  obtain ⟨before, word, member, inner, closing, rfl⟩ := known
  obtain ⟨initial, rfl⟩ := closing.exists_append
  exact ⟨before ++ (word ++ initial), by simp⟩

theorem not_nil : ¬EndsDeclared [] := by
  intro known
  obtain ⟨before, word, member, inner, closing, same⟩ := known
  have parts := List.append_eq_nil_iff.1 (List.append_eq_nil_iff.1 same.symm).2
  rw [parts.2] at closing
  cases (closing_nil_iff _).1 closing

/-- Where no name starts, a character says nothing about what is closed later. -/
theorem cons_iff {character : Char} {front rest : List Char}
    (plain : opensDeclared (character :: rest) = false) (initial : front <+: rest) :
    EndsDeclared (character :: front) ↔ EndsDeclared front := by
  constructor
  · intro known
    obtain ⟨before, word, member, inner, closing, same⟩ := known
    cases before with
    | nil =>
        obtain ⟨later, rfl⟩ := initial
        have opens : opensDeclared (character :: (front ++ later)) = true := by
          refine (opensDeclared_iff _).2 ⟨word, member, inner ++ later, ?_⟩
          rw [← List.cons_append, same, List.nil_append, List.append_assoc]
        rw [plain] at opens
        cases opens
    | cons other before =>
        exact ⟨before, word, member, inner, closing, (List.cons.inj same).2⟩
  · intro known
    obtain ⟨before, word, member, inner, closing, rfl⟩ := known
    exact ⟨character :: before, word, member, inner, closing, rfl⟩

/-- Behind a word its own parenthesis is closed, or that of a later one. -/
theorem word_iff {word : List Char} (member : word ∈ declaredKinds) (front : List Char) :
    EndsDeclared (word ++ front) ↔ EndsDeclared front ∨ Closing 1 front := by
  constructor
  · intro known
    obtain ⟨before, other, member', inner, closing, same⟩ := known
    rcases List.append_eq_append_iff.1 same with ⟨later, rfl, rfl⟩ | ⟨part, rfl, later⟩
    · exact Or.inl ⟨later, other, member', inner, closing, rfl⟩
    -- The two words overlap, so they are the same one.
    by_cases empty : part = []
    · subst empty
      exact Or.inl ⟨[], other, member', inner, closing, later.symm⟩
    have fronts := List.prefix_or_prefix_of_prefix
      (later ▸ List.prefix_append part front) (List.prefix_append other inner)
    obtain ⟨known, known'⟩ := word_of_part _ member part
      ((List.mem_tails _ _).2 (List.suffix_append before part)) empty other member' fronts
    rw [known'.trans known.symm] at later
    exact Or.inr (List.append_cancel_left later ▸ closing)
  · intro known
    rcases known with known | closing
    · obtain ⟨before, other, member', inner, closing, rfl⟩ := known
      exact ⟨word ++ before, other, member', inner, closing, by rw [List.append_assoc]⟩
    · exact ⟨[], word, member, front, closing, rfl⟩

theorem not_closing {front : List Char} (known : EndsDeclared front) : ¬Closing 1 front := by
  obtain ⟨before, word, member, inner, closing, rfl⟩ := known
  have stems : ∀ word ∈ declaredKinds, ∃ stem, word = stem ++ ['('] := by
    intro word member
    simp only [declaredKinds, List.mem_cons, List.not_mem_nil, or_false] at member
    rcases member with rfl | rfl | rfl
    · exact ⟨"t_struct".toList, rfl⟩
    · exact ⟨"t_enum".toList, rfl⟩
    · exact ⟨"t_contract".toList, rfl⟩
  obtain ⟨stem, rfl⟩ := stems word member
  intro closing'
  rw [List.append_assoc, List.singleton_append, ← List.append_assoc] at closing'
  exact closing'.not_inner closing

end EndsDeclared

theorem EndsDeclared.not_part {word part : List Char} (member : word ∈ declaredKinds)
    (initial : part <+: word) : ¬EndsDeclared part := by
  have words : ∀ word ∈ declaredKinds, ')' ∉ word := by decide
  by_cases empty : part = []
  · rw [empty]
    exact not_nil
  · exact parenthetic.not_plain empty fun known => words word member (initial.subset known)

@[elab_as_elim]
theorem words_induction {motive : List Char → Prop} (nil : motive [])
    (plain : ∀ character rest, opensDeclared (character :: rest) = false → motive rest →
      motive (character :: rest))
    (word : ∀ word ∈ declaredKinds, ∀ rest, motive rest → motive (word ++ rest))
    (text : List Char) : motive text := by
  match text with
  | [] => exact nil
  | character :: rest =>
      cases opens : opensDeclared (character :: rest) with
      | false => exact plain character rest opens (words_induction nil plain word rest)
      | true =>
          obtain ⟨name, member, behind, same⟩ := (opensDeclared_iff _).1 opens
          rw [same]
          exact word name member behind (words_induction nil plain word behind)
termination_by text.length
decreasing_by
  · exact Nat.lt_succ_self _
  · have positive := List.length_pos_of_ne_nil (word_ne_nil member)
    rw [same, List.length_append]
    omega

/-- What is erased is what stands behind the parentheses that close declared types. -/
theorem erased_eraseIds (text : List Char) : Erased EndsDeclared text (eraseIds text) := by
  induction text using words_induction with
  | nil => exact .nil
  | plain character rest plain ih =>
      rw [eraseIds_cons rest plain]
      refine .keep (fun known => absurd known EndsDeclared.not_nil) ?_
      exact ih.congr fun _ initial => (EndsDeclared.cons_iff plain initial).symm
  | word word member rest ih =>
      rw [eraseIds_word member]
      apply Erased.append
      · intro part initial _
        exact EndsDeclared.not_part member initial
      have erased := ih.dropIdBehind EndsDeclared.parenthetic 0
        fun _ closing known => known.not_closing closing
      exact erased.congr fun front _ => (EndsDeclared.word_iff member front).symm

def pick : (keep : Nat → Bool) → List Char → List Char
  | _, [] => []
  | keep, character :: rest =>
      let later := pick (fun place => keep (place + 1)) rest
      if keep 0 then character :: later else later

/-- The place belongs to the longest id behind some front. -/
def Within (ends : List Char → Prop) (text : List Char) (place : Nat) : Prop :=
  ∃ front id rest, text = front ++ (id ++ rest) ∧ ends front ∧ LongestId id (id ++ rest) ∧
    front.length ≤ place ∧ place < front.length + id.length

theorem pick_append (keep : Nat → Bool) (front rest : List Char)
    (erased : ∀ place < front.length, keep place = false) :
    pick keep (front ++ rest) = pick (fun place => keep (front.length + place)) rest := by
  induction front generalizing keep with
  | nil => simp only [List.nil_append, List.length_nil, Nat.zero_add]
  | cons character front ih =>
      have here := erased 0 (Nat.succ_pos _)
      have later := ih (fun place => keep (place + 1)) fun place known =>
        erased (place + 1) (Nat.succ_lt_succ known)
      rw [List.cons_append, pick, here, if_neg Bool.false_ne_true, later]
      congr 1
      funext place
      rw [List.length_cons, Nat.add_right_comm]

theorem not_within_zero {ends : List Char → Prop} {character : Char} {rest : List Char}
    (stays : ends [] → EndsNumber (character :: rest)) : ¬Within ends (character :: rest) 0 := by
  intro within
  obtain ⟨front, id, later, same, known, longest, reached, -⟩ := within
  obtain rfl := List.eq_nil_of_length_eq_zero (Nat.le_zero.1 reached)
  rw [List.nil_append] at same
  exact longest.isId.not_endsNumber later (same ▸ stays known)

theorem within_succ_iff {ends : List Char → Prop} {character : Char} {rest : List Char}
    (stays : ends [] → EndsNumber (character :: rest)) (place : Nat) :
    Within ends (character :: rest) (place + 1) ↔
      Within (fun front => ends (character :: front)) rest place := by
  constructor
  · intro within
    obtain ⟨front, id, later, same, known, longest, reached, left⟩ := within
    cases front with
    | nil => exact absurd (same ▸ stays known) (longest.isId.not_endsNumber later)
    | cons other front =>
        obtain ⟨rfl, rfl⟩ := List.cons.inj same
        rw [List.length_cons] at reached left
        exact ⟨front, id, later, rfl, known, longest, by omega, by omega⟩
  · intro within
    obtain ⟨front, id, later, rfl, known, longest, reached, left⟩ := within
    refine ⟨character :: front, id, later, rfl, known, longest, ?_, ?_⟩
    · exact Nat.succ_le_succ reached
    · rw [List.length_cons]
      omega

theorem within_append_iff {ends : List Char → Prop} (parenthetic : Parenthetic ends)
    {id rest : List Char} (longest : LongestId id (id ++ rest)) (place : Nat) :
    Within ends (id ++ rest) (id.length + place) ↔
      Within (fun front => ends (id ++ front)) rest place := by
  constructor
  · intro within
    obtain ⟨front, other, later, same, known, longest', reached, left⟩ := within
    by_cases empty : front = []
    · subst empty
      rw [List.nil_append] at same
      have shorter := longest.longest other longest'.isId (same ▸ List.prefix_append other later)
      rw [List.length_nil] at left
      omega
    rcases List.append_eq_append_iff.1 same with ⟨behind, rfl, rfl⟩ | ⟨part, rfl, -⟩
    · rw [List.length_append] at reached left
      exact ⟨behind, other, later, rfl, known, longest', by omega, by omega⟩
    · have plain := mt (List.mem_append_left part) longest.isId.not_parenthesis.2
      exact absurd known (parenthetic.not_plain empty plain)
  · intro within
    obtain ⟨front, other, later, rfl, known, longest', reached, left⟩ := within
    refine ⟨id ++ front, other, later, by rw [List.append_assoc], known, longest', ?_, ?_⟩
    · rw [List.length_append]
      omega
    · rw [List.length_append]
      omega

theorem Erased.eq_pick {ends : List Char → Prop} {text result : List Char}
    (erased : Erased ends text result) (parenthetic : Parenthetic ends) (keep : Nat → Bool)
    (places : ∀ place, keep place = false ↔ Within ends text place) : result = pick keep text := by
  induction erased generalizing keep with
  | nil => rfl
  | @keep ends character rest result stays later ih =>
      have here : keep 0 = true := by
        rw [← Bool.not_eq_false]
        exact mt (places 0).1 (not_within_zero stays)
      rw [pick, here, if_pos rfl]
      congr 1
      apply ih (parenthetic.cons character)
      intro place
      rw [places, within_succ_iff stays]
  | @drop ends id rest result here longest later ih =>
      have gone : ∀ place < id.length, keep place = false := by
        intro place known
        refine (places place).2 ⟨[], id, rest, rfl, here, longest, Nat.zero_le _, ?_⟩
        rwa [List.length_nil, Nat.zero_add]
      rw [pick_append keep id rest gone]
      apply ih (parenthetic.append id)
      intro place
      rw [places, within_append_iff parenthetic longest]

end StorageCompat.TypeKey
