import StorageCompat.Json.Reader

/-!
Whole numbers. What they are written as has no leading zero and no sign but a minus, and it is read
as the number that it was, up to where the digits end.
-/

namespace StorageCompat

theorem Text.ne_of_isDigit {digit character : Char} (decimal : digit.isDigit = true)
    (other : character.isDigit = false) : digit ≠ character := by
  rintro rfl
  rw [decimal] at other
  cases other

namespace Numeral

theorem digitsValue_toDigits (number : Nat) : digitsValue (Nat.toDigits 10 number) = number := by
  rw [digitsValue, Text.baseValue, List.foldl_map]
  exact Nat.ofDigitChars_toDigits (by decide) (by decide)

theorem isDigit_toDigits {number : Nat} {digit : Char} (member : digit ∈ Nat.toDigits 10 number) :
    digit.isDigit = true :=
  Nat.isDigit_of_mem_toDigits (by decide) (by decide) member

theorem spanDigits_append {digits rest : List Char}
    (decimal : ∀ digit ∈ digits, digit.isDigit = true)
    (other : ∀ character ∈ rest.head?, character.isDigit = false) :
    spanDigits (digits ++ rest) = (digits, rest) := by
  have taken : rest.takeWhile Char.isDigit = [] ∧ rest.dropWhile Char.isDigit = rest := by
    cases rest with
    | nil => exact ⟨rfl, rfl⟩
    | cons character later =>
        have stop : ¬character.isDigit = true := by
          rw [other character rfl]
          exact Bool.false_ne_true
        exact ⟨List.takeWhile_cons_of_neg stop, List.dropWhile_cons_of_neg stop⟩
  rw [spanDigits, List.takeWhile_append_of_pos decimal, List.dropWhile_append_of_pos decimal,
    taken.1, taken.2, List.append_nil]

theorem eq_nil_of_toDigits_eq_cons {number : Nat} {later : List Char}
    (zero : Nat.toDigits 10 number = '0' :: later) : later = [] := by
  induction number using Nat.strongRecOn generalizing later with
  | ind number ih =>
      by_cases small : number < 10
      · rw [Nat.toDigits_of_lt_base small] at zero
        exact (List.cons.inj zero).2.symm
      · -- The digits but the last one are those of a smaller number, which would have to be zero.
        have large := Nat.not_lt.1 small
        have positive : 0 < number / 10 := Nat.div_pos large (by decide)
        rw [Nat.toDigits_of_base_le (by decide) large] at zero
        cases front : Nat.toDigits 10 (number / 10) with
        | nil => exact absurd front Nat.toDigits_ne_nil
        | cons first others =>
            rw [front, List.cons_append] at zero
            obtain ⟨rfl, -⟩ := List.cons.inj zero
            obtain rfl := ih _ (Nat.div_lt_self (by omega) (by decide)) front
            have value := digitsValue_toDigits (number / 10)
            rw [front] at value
            exact absurd value (Nat.ne_of_lt positive)

end Numeral

namespace Json

/-- What stands behind a value: nothing that a number could go on with. -/
def Ends (rest : List Char) : Prop :=
  ∀ character ∈ rest.head?, character.isDigit = false ∧ character ≠ '.' ∧ character ≠ 'e' ∧
    character ≠ 'E'

variable {rest : List Char}

theorem Ends.readFraction_eq (ends : Ends rest) : readFraction rest = none := by
  unfold readFraction
  split
  case h_1 => exact absurd rfl (ends '.' rfl).2.1
  case h_2 => rfl

theorem Ends.readExponent_eq (ends : Ends rest) : Numeral.readExponent rest = none := by
  cases rest with
  | nil => rfl
  | cons mark rest =>
      obtain ⟨_, _, small, large⟩ := ends mark rfl
      rw [Numeral.readExponent, decide_eq_false small, decide_eq_false large]
      rfl

theorem Ends.spanDigits_eq (ends : Ends rest) {digits : List Char}
    (decimal : ∀ digit ∈ digits, digit.isDigit = true) :
    Numeral.spanDigits (digits ++ rest) = (digits, rest) :=
  Numeral.spanDigits_append decimal fun character first => (ends character first).1

theorem readWhole_toDigits (ends : Ends rest) (number : Nat) :
    readWhole (Nat.toDigits 10 number ++ rest) = some (Nat.toDigits 10 number, rest) := by
  have decimal : ∀ digit ∈ Nat.toDigits 10 number, digit.isDigit = true :=
    fun _ => Numeral.isDigit_toDigits
  have nonempty : Nat.toDigits 10 number ≠ [] := Nat.toDigits_ne_nil
  obtain ⟨first, later, digits⟩ := List.exists_cons_of_ne_nil nonempty
  by_cases zero : first = '0'
  · subst zero
    obtain rfl := Numeral.eq_nil_of_toDigits_eq_cons digits
    rw [digits]
    rfl
  · have span := ends.spanDigits_eq decimal
    rw [digits, List.cons_append] at span ⊢
    rw [readWhole.eq_def]
    split
    case h_1 pattern => exact absurd (List.cons.inj pattern).1 zero
    case h_2 =>
      rw [span]

theorem readNumber_toDigits (ends : Ends rest) (negative : Bool) {number : Nat}
    (short : Numeral.isWritable number = true) :
    readNumber negative (Nat.toDigits 10 number ++ rest) =
      .ok (.int (Numeral.signed negative number), rest) := by
  have length : ¬Numeral.longest < (Nat.toDigits 10 number).length :=
    Nat.not_lt.2 (of_decide_eq_true short)
  have read : required (some (Nat.toDigits 10 number, rest)) =
      Except.ok (Nat.toDigits 10 number, rest) := rfl
  simp only [readNumber, readWhole_toDigits ends, read, ends.readFraction_eq, Option.map_none,
    Option.getD_none, ends.readExponent_eq, Numeral.digitsValue_toDigits, bind, Except.bind,
    if_neg length]
  rfl

theorem constants_letters : ∀ entry ∈ constants, 2 ≤ entry.1.toList.length ∧
    entry.1.toList.any Char.isDigit = false := by
  decide

/-- A text that starts as a number does is none of the words that are values. -/
theorem readConstant_eq_none {text : List Char}
    (number : ∃ digit ∈ text.take 2, digit.isDigit = true) : readConstant text = none := by
  obtain ⟨digit, early, decimal⟩ := number
  rw [readConstant, List.findSome?_eq_none_iff]
  intro entry member
  obtain ⟨long, letters⟩ := constants_letters entry member
  rw [Option.map_eq_none_iff]
  apply if_neg
  rw [List.isPrefixOf_iff_prefix]
  rintro ⟨later, rfl⟩
  rw [List.take_append_of_le_length long] at early
  exact List.any_eq_false.1 letters digit (List.mem_of_mem_take early) decimal

theorem toList_toString (number : Int) :
    (toString number).toList =
      (if number < 0 then ['-'] else []) ++ Nat.toDigits 10 number.natAbs := by
  have digits (size : Nat) : (Nat.repr size).toList = Nat.toDigits 10 size := by
    rw [Nat.repr_eq_ofList_toDigits, String.toList_ofList]
  cases number with
  | ofNat size => exact digits size
  | negSucc size =>
      rw [if_pos (Int.negSucc_lt_zero size)]
      change ("-" ++ Nat.repr (size + 1)).toList = _
      rw [String.toList_append, digits]
      rfl

end Json

end StorageCompat
