import StorageCompat.Proofs.TypeKey.Grammar
import StorageCompat.TypeKey

/-!
How numbers are read, kept and erased. Decoding keeps a number and decodes what stands on its sides
by itself; a number has no part in which parentheses are closed and where names of declared types
start; and where one is erased, what is left does not depend on it.
-/

namespace StorageCompat.TypeKey

structure IsNumber (digits : List Char) : Prop where
  nonempty : digits ≠ []
  decimal : ∀ digit ∈ digits, Text.isDecimalDigit digit = true

/-- A number in front is not continued. -/
def EndsNumber (rest : List Char) : Prop :=
  ∀ character ∈ rest.head?, Text.isDecimalDigit character = false

theorem endsNumber_nil : EndsNumber [] := by
  rintro _ ⟨⟩

theorem dropIdBehind_opening (depth : Nat) (rest : List Char) :
    dropIdBehind depth ('(' :: rest) = '(' :: dropIdBehind (depth + 1) rest := by
  cases depth <;> rfl

theorem dropIdBehind_other (depth : Nat) {character : Char} (rest : List Char)
    (notOpening : character ≠ '(') (notClosing : character ≠ ')') :
    dropIdBehind depth (character :: rest) = character :: dropIdBehind depth rest := by
  rw [dropIdBehind] <;> (intros; contradiction)

theorem closes_opening (depth : Nat) (rest : List Char) :
    closes depth ('(' :: rest) = closes (depth + 1) rest := by
  cases depth <;> rfl

theorem closes_other (depth : Nat) {character : Char} (rest : List Char)
    (notOpening : character ≠ '(') (notClosing : character ≠ ')') :
    closes depth (character :: rest) = closes depth rest := by
  rw [closes] <;> (intros; contradiction)

theorem head?_dropIdBehind (depth : Nat) (text : List Char) :
    (dropIdBehind depth text).head? = text.head? := by
  unfold dropIdBehind
  split <;> rfl

theorem head?_eraseIds (text : List Char) : (eraseIds text).head? = text.head? := by
  cases text with
  | nil => rfl
  | cons character rest =>
      rw [eraseIds]
      split
      · exact head?_dropIdBehind 0 _
      · rfl

theorem not_parenthesis_of_digit {character : Char} (digit : Text.isDecimalDigit character = true) :
    character ≠ '(' ∧ character ≠ ')' := by
  refine ⟨?_, ?_⟩ <;> rintro rfl
  · rw [Text.isDecimalDigit_parenthesis.1] at digit
    cases digit
  · rw [Text.isDecimalDigit_parenthesis.2] at digit
    cases digit

theorem endsNumber_of_head? {text other : List Char} (same : text.head? = other.head?)
    (ends : EndsNumber other) : EndsNumber text :=
  fun character member => ends character (same ▸ member)

def dropUnderscore : List Char → List Char
  | '_' :: rest => rest
  | rest => rest

theorem dropUnderscore_cons_ne {character : Char} (rest : List Char) (other : character ≠ '_') :
    dropUnderscore (character :: rest) = character :: rest := by
  rw [dropUnderscore]
  intro _ same
  exact other (List.cons.inj same).1

theorem dropId_of_endsNumber {text : List Char} (ends : EndsNumber text) : dropId text = text := by
  cases text with
  | nil => rfl
  | cons character rest =>
      have none := ends character rfl
      have stays : ¬Text.isDecimalDigit character = true := by simp [none]
      rw [dropId, List.dropWhile_cons_of_neg stays]
      split
      case h_1 same =>
        obtain ⟨rfl, rfl⟩ := List.cons.inj same
        rw [if_neg]
        simp [none]
      case h_2 => rfl

theorem dropId_of_digit {text : List Char} {digit : Char} (first : digit ∈ text.head?)
    (decimal : Text.isDecimalDigit digit = true) :
    dropId text = dropUnderscore (text.dropWhile Text.isDecimalDigit) := by
  have numbered : text.head?.any Text.isDecimalDigit = true := by
    rw [Option.mem_def.1 first]
    exact decimal
  rw [dropId, numbered]
  rfl

theorem eraseIds_cons {character : Char} (rest : List Char)
    (plain : opensDeclared (character :: rest) = false) :
    eraseIds (character :: rest) = character :: eraseIds rest := by
  rw [eraseIds, plain]
  rfl

theorem opensDeclared_cons_ne {character : Char} (rest : List Char) (other : character ≠ 't') :
    opensDeclared (character :: rest) = false := by
  have words : ∀ word ∈ declaredKinds, word.head? = some 't' := by decide
  rw [opensDeclared, List.any_eq_false]
  intro word member prefixed
  obtain ⟨tail, rfl⟩ := List.head?_eq_some_iff.1 (words word member)
  rw [List.isPrefixOf_iff_prefix, List.cons_prefix_cons] at prefixed
  exact other prefixed.1.symm

theorem eraseIds_word {word : List Char} (member : word ∈ declaredKinds) (rest : List Char) :
    eraseIds (word ++ rest) = word ++ dropIdBehind 1 (eraseIds rest) := by
  simp only [declaredKinds, List.mem_cons, List.not_mem_nil, or_false] at member
  rcases member with rfl | rfl | rfl <;> rfl

theorem opensDeclared_of_digit {digit : Char} (rest : List Char)
    (decimal : Text.isDecimalDigit digit = true) : opensDeclared (digit :: rest) = false := by
  apply opensDeclared_cons_ne
  rintro rfl
  exact absurd decimal (by decide)

theorem firstUnclosed?_cons_eq_none_iff (character : Char) (rest : List Char) :
    firstUnclosed? (character :: rest) = none ↔
      (opensDeclared (character :: rest) = true → closes 0 (character :: rest) = true) ∧
        firstUnclosed? rest = none := by
  rw [firstUnclosed?]
  split
  case isTrue unclosed => simp_all
  case isFalse closed => simp_all

theorem takeWhile_word {word : List Char} (member : word ∈ declaredKinds) (rest : List Char) :
    (word ++ rest).takeWhile (· != ')') = word ++ rest.takeWhile (· != ')') := by
  have words : ∀ word ∈ declaredKinds, word.all (· != ')') = true := by decide
  exact List.takeWhile_append_of_pos (List.all_eq_true.1 (words word member))

theorem opensDeclared_takeWhile (text : List Char) :
    opensDeclared (text.takeWhile (· != ')')) = opensDeclared text := by
  rw [Bool.eq_iff_iff]
  simp only [opensDeclared, List.any_eq_true, List.isPrefixOf_iff_prefix]
  apply exists_congr
  intro word
  apply and_congr_right
  intro member
  constructor
  · intro prefixed
    exact prefixed.trans (List.takeWhile_prefix _)
  · rintro ⟨rest, rfl⟩
    rw [takeWhile_word member]
    exact List.prefix_append _ _

namespace IsNumber

variable {number rest : List Char}

theorem dropWhile_append (isNumber : IsNumber number) (ends : EndsNumber rest) :
    (number ++ rest).dropWhile Text.isDecimalDigit = rest := by
  rw [List.dropWhile_append_of_pos isNumber.decimal]
  cases rest with
  | nil => rfl
  | cons character later =>
      rw [List.dropWhile_cons_of_neg]
      rw [ends character rfl]
      exact Bool.false_ne_true

theorem dropId_append (isNumber : IsNumber number) (ends : EndsNumber rest) :
    dropId (number ++ rest) = dropUnderscore rest := by
  obtain ⟨digit, later, rfl⟩ := List.exists_cons_of_ne_nil isNumber.nonempty
  rw [dropId_of_digit rfl (isNumber.decimal digit List.mem_cons_self),
    isNumber.dropWhile_append ends]

theorem kept (isNumber : IsNumber number) (edit : List Char → List Char)
    (step : ∀ {digit}, Text.isDecimalDigit digit = true → ∀ rest,
      edit (digit :: rest) = digit :: edit rest) (rest : List Char) :
    edit (number ++ rest) = number ++ edit rest := by
  obtain ⟨-, decimal⟩ := isNumber
  induction number with
  | nil => rfl
  | cons digit later ih =>
      obtain ⟨first, decimal⟩ := List.forall_mem_cons.1 decimal
      rw [List.cons_append, step first, ih decimal]
      rfl

theorem passed {α : Sort*} (isNumber : IsNumber number) (read : List Char → α)
    (step : ∀ {digit}, Text.isDecimalDigit digit = true → ∀ rest,
      read (digit :: rest) = read rest) (rest : List Char) :
    read (number ++ rest) = read rest := by
  obtain ⟨-, decimal⟩ := isNumber
  induction number with
  | nil => rfl
  | cons digit later ih =>
      obtain ⟨first, decimal⟩ := List.forall_mem_cons.1 decimal
      rw [List.cons_append, step first, ih decimal]

theorem dropIdBehind_append (isNumber : IsNumber number) (depth : Nat) (rest : List Char) :
    dropIdBehind depth (number ++ rest) = number ++ dropIdBehind depth rest := by
  apply isNumber.kept (dropIdBehind depth)
  intro digit decimal rest
  obtain ⟨notOpening, notClosing⟩ := not_parenthesis_of_digit decimal
  exact dropIdBehind_other depth rest notOpening notClosing

theorem eraseIds_append (isNumber : IsNumber number) (rest : List Char) :
    eraseIds (number ++ rest) = number ++ eraseIds rest := by
  apply isNumber.kept eraseIds
  intro digit decimal rest
  exact eraseIds_cons rest (opensDeclared_of_digit rest decimal)

theorem closes_append (isNumber : IsNumber number) (depth : Nat) (rest : List Char) :
    closes depth (number ++ rest) = closes depth rest := by
  apply isNumber.passed (closes depth)
  intro digit decimal rest
  obtain ⟨notOpening, notClosing⟩ := not_parenthesis_of_digit decimal
  exact closes_other depth rest notOpening notClosing

theorem firstUnclosed?_append (isNumber : IsNumber number) (rest : List Char) :
    firstUnclosed? (number ++ rest) = none ↔ firstUnclosed? rest = none := by
  apply Iff.of_eq
  apply isNumber.passed fun text => firstUnclosed? text = none
  intro digit decimal rest
  rw [firstUnclosed?_cons_eq_none_iff, opensDeclared_of_digit rest decimal]
  simp

end IsNumber

theorem withoutIds_eq_ok_iff (text key : List Char) :
    withoutIds text = .ok key ↔ firstUnclosed? text = none ∧ eraseIds text = key := by
  rw [withoutIds]
  cases firstUnclosed? text with
  | none => simp
  | some found => simp

theorem keyOf_eq_ok_iff (identifier key : List Char) :
    keyOf identifier = .ok key ↔
      ∃ text, decode identifier = .ok text ∧ withoutIds text = .ok key :=
  bind_eq_ok_iff _ _ _

theorem fault_of_decode {identifier : List Char} {fault : Fault}
    (refused : decode identifier = .error fault) :
    ∃ run, fault = .undecodable run (String.ofList identifier) := by
  obtain refused | ⟨_, _, ⟨⟩⟩ := (bind_eq_error_iff _ _ _).1 refused
  obtain ⟨segment, -, refused⟩ := exists_of_mapM_eq_error refused
  unfold decodeSegment at refused
  split at refused
  case isFalse => cases refused
  case isTrue =>
    split at refused
    case h_1 => cases refused
    case h_2 =>
      cases refused
      exact ⟨_, rfl⟩

theorem fault_of_withoutIds {text : List Char} {fault : Fault}
    (refused : withoutIds text = .error fault) : ∃ shown, fault = .unclosed shown := by
  unfold withoutIds at refused
  split at refused
  case h_1 =>
    cases refused
    exact ⟨_, rfl⟩
  case h_2 => cases refused

/-- An identifier has no key if it is not decoded, or if what it is decoded to has a declared type
that is not closed. -/
theorem ofIdentifier_eq_error_iff (identifier : String) (fault : Fault) :
    (ofIdentifier identifier).result = .error fault ↔
      (∃ run, decode identifier.toList = .error (.undecodable run identifier) ∧
        fault = .undecodable run identifier) ∨
      ∃ text shown, decode identifier.toList = .ok text ∧
        withoutIds text = .error (.unclosed shown) ∧ fault = .unclosed shown := by
  rw [ofIdentifier_result, map_eq_error_iff, keyOf, bind_eq_error_iff]
  constructor
  · intro refused
    obtain refused | ⟨text, decoded, refused⟩ := refused
    · obtain ⟨run, rfl⟩ := fault_of_decode refused
      rw [String.ofList_toList] at refused ⊢
      exact Or.inl ⟨run, refused, rfl⟩
    · obtain ⟨shown, rfl⟩ := fault_of_withoutIds refused
      exact Or.inr ⟨text, shown, decoded, refused, rfl⟩
  · intro refused
    obtain ⟨run, refused, rfl⟩ | ⟨text, shown, decoded, refused, rfl⟩ := refused
    · exact Or.inl refused
    · exact Or.inr ⟨text, decoded, refused⟩

/-- What stands in front of a character that is no escape character is decoded by itself. -/
theorem decodePart_append_other (identifier front : List Char) {character : Char}
    (rest : List Char) (outside : isEscape character = false) :
    decodePart identifier (front ++ character :: rest) = do
      let first ← decodePart identifier front
      let later ← decodePart identifier (character :: rest)
      return first ++ later := by
  induction front using runs_induction with
  | nil =>
      rw [List.nil_append, decodePart_nil]
      cases decodePart identifier (character :: rest) <;> rfl
  | other first others apart ih =>
      rw [List.cons_append, decodePart_other identifier _ apart, ih,
        decodePart_other identifier _ apart]
      cases decodePart identifier others with
      | error fault => rfl
      | ok decoded => cases decodePart identifier (character :: rest) <;> rfl
  | run run others nonempty escapes behind ih =>
      have apart : Behind true (others ++ character :: rest) := by
        cases others with
        | nil =>
            rintro _ ⟨⟩
            exact outside
        | cons first later => exact behind
      rw [List.append_assoc, decodePart_run identifier nonempty escapes apart, ih,
        decodePart_run identifier nonempty escapes behind]
      cases decodeRun? run with
      | none => rfl
      | some text =>
          cases decodePart identifier others with
          | error fault => rfl
          | ok decoded =>
              cases decodePart identifier (character :: rest) with
              | error fault => rfl
              | ok later => exact congrArg Except.ok (List.append_assoc _ _ _).symm

theorem isEscape_of_digit {digit : Char} (decimal : Text.isDecimalDigit digit = true) :
    isEscape digit = false := by
  rw [isEscape, Bool.or_eq_false_iff, decide_eq_false_iff_not, decide_eq_false_iff_not]
  refine ⟨?_, ?_⟩ <;> rintro rfl <;> exact absurd decimal (by decide)

theorem decodePart_digits (identifier : List Char) {digits : List Char} (rest : List Char)
    (decimal : ∀ digit ∈ digits, Text.isDecimalDigit digit = true) :
    decodePart identifier (digits ++ rest) = (decodePart identifier rest).map (digits ++ ·) := by
  induction digits with
  | nil =>
      rw [List.nil_append]
      cases decodePart identifier rest <;> rfl
  | cons digit later ih =>
      obtain ⟨first, decimal⟩ := List.forall_mem_cons.1 decimal
      rw [List.cons_append, decodePart_other identifier _ (isEscape_of_digit first), ih decimal]
      cases decodePart identifier rest <;> rfl

theorem decodePart_eq_ok_iff_decode (identifier part text : List Char) :
    decodePart identifier part = .ok text ↔ decode part = .ok text := by
  rw [decode_eq_decodePart, decodePart_eq_ok_iff_replaced, decodePart_eq_ok_iff_replaced]

/-- A number is kept, and what stands on its sides is decoded by itself. -/
theorem decode_number_eq_ok_iff {number : List Char} (isNumber : IsNumber number)
    (front rest text : List Char) :
    decode (front ++ (number ++ rest)) = .ok text ↔
      ∃ first later, decode front = .ok first ∧ decode rest = .ok later ∧
        text = first ++ (number ++ later) := by
  obtain ⟨digit, digits, rfl⟩ := List.exists_cons_of_ne_nil isNumber.nonempty
  have outside := isEscape_of_digit (isNumber.decimal digit List.mem_cons_self)
  rw [decode_eq_decodePart, List.cons_append, decodePart_append_other _ _ _ outside,
    ← List.cons_append, decodePart_digits _ _ isNumber.decimal]
  simp only [bind_eq_ok_iff, pure_eq_ok_iff, map_eq_ok_iff, decodePart_eq_ok_iff_decode]
  constructor
  · rintro ⟨first, decoded, _, ⟨later, decoded', rfl⟩, rfl⟩
    exact ⟨first, later, decoded, decoded', rfl⟩
  · rintro ⟨first, later, decoded, decoded', rfl⟩
    exact ⟨first, decoded, _, ⟨later, decoded', rfl⟩, rfl⟩

theorem not_digit_of_isCoded {character : Char} (coded : isCoded character = true) :
    Text.isDecimalDigit character = false := by
  obtain rfl | known := (isCoded_iff character).1 coded
  · exact Text.isDecimalDigit_underscore
  · rcases (isSymbol_iff character).1 known with rfl | rfl | rfl <;> decide

theorem endsNumber_decode {rest later : List Char} (decoded : decode rest = .ok later)
    (ends : EndsNumber rest) : EndsNumber later := by
  rw [decode_eq_decodePart, decodePart_eq_ok_iff_replaced] at decoded
  cases decoded with
  | nil => exact ends
  | other => exact ends
  | run nonempty _ _ reads =>
      obtain ⟨first, others, rfl, coded⟩ := reads.exists_isCoded nonempty
      rintro _ ⟨⟩
      exact not_digit_of_isCoded coded

end StorageCompat.TypeKey
