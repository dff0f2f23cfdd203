import StorageCompat.Json.Reader
import StorageCompat.Json.Writer

/-!
Texts within quotes. Whatever a character is written as, it is read as that character, and reading
goes on behind it; so a quoted text is read as it was up to the quote that closes it.
-/

namespace StorageCompat.Json

theorem hexValue?_digitChar : ∀ digit < 16, Text.hexValue? (Nat.digitChar digit) = some digit := by
  decide

theorem codeUnit?_digitChar {number : Nat} (small : number < 0x10000) :
    codeUnit? (Nat.digitChar (number / Nat.pow 16 3 % 16))
      (Nat.digitChar (number / Nat.pow 16 2 % 16)) (Nat.digitChar (number / Nat.pow 16 1 % 16))
      (Nat.digitChar (number / Nat.pow 16 0 % 16)) = some number := by
  have value (place : Nat) : Text.hexValue? (Nat.digitChar (number / Nat.pow 16 place % 16)) =
      some (number / Nat.pow 16 place % 16) :=
    hexValue?_digitChar _ (Nat.mod_lt _ (by decide))
  have thousands : Nat.pow 16 3 = 4096 := rfl
  have hundreds : Nat.pow 16 2 = 256 := rfl
  have tens : Nat.pow 16 1 = 16 := rfl
  have ones : Nat.pow 16 0 = 1 := rfl
  rw [codeUnit?, value, value, value, value, thousands, hundreds, tens, ones]
  change some _ = some number
  rw [Option.some.injEq]
  omega

theorem toNat_not_surrogate (character : Char) :
    character.toNat < 0xd800 ∨ 0xe000 ≤ character.toNat := by
  have valid := character.valid
  simp only [UInt32.isValidChar, Nat.isValidChar] at valid
  change character.val.toNat < 0xd800 ∨ 0xe000 ≤ character.val.toNat
  omega

theorem wholeUnit_toNat (character : Char) : wholeUnit character.toNat = .ok character := by
  have valid : character.toNat.isValidChar := character.valid
  rw [wholeUnit, Text.ofCodePoint?, if_pos valid, Char.ofNat_toNat]

theorem surrogatePair?_toNat (character : Char) (low : Nat) :
    surrogatePair? character.toNat low = none := by
  have whole := toNat_not_surrogate character
  apply if_neg
  simp only [Bool.and_eq_true, decide_eq_true_eq]
  omega

def afterCharacter (character : Char) (found : List Char × List Char) : List Char × List Char :=
  (character :: found.1, found.2)

theorem bind_eq_map_afterCharacter (character : Char) (found : Reading (List Char × List Char)) :
    (do
      let (text, rest) ← found
      return (character :: text, rest)) = found.map (afterCharacter character) := by
  cases found <;> rfl

/-- The escape of a code unit is the character of that unit, whatever follows: only the first half
of a surrogate pair would be read together with what follows it. -/
theorem readText_codeUnit {first second third fourth character : Char}
    (unit : codeUnit? first second third fourth = some character.toNat) (rest : List Char) :
    readText ('\\' :: 'u' :: first :: second :: third :: fourth :: rest) =
      (readText rest).map (afterCharacter character) := by
  have alone (low : Option Nat) : low.bind (surrogatePair? character.toNat) = none := by
    cases low with
    | none => rfl
    | some low => exact surrogatePair?_toNat character low
  have known (next : Nat → Reading (List Char × List Char)) :
      (required (some character.toNat) >>= next) = next character.toNat := rfl
  rw [readText.eq_def, ← bind_eq_map_afterCharacter]
  split
  case h_3 pattern =>
    cases pattern
    rw [unit, known, alone, wholeUnit_toNat]
    rfl
  case h_4 pattern =>
    cases pattern
    rw [unit, known, wholeUnit_toNat]
    rfl
  case h_5 other pattern =>
    cases pattern
    exact (other _ _ _ _ _ rfl rfl).elim
  case h_6 other pattern =>
    cases pattern
    exact (other _ _ rfl rfl).elim
  all_goals cases ‹_ :: _ = _›

theorem readText_hexEscape (character : Char) (small : character.toNat < 0x10000)
    (rest : List Char) :
    readText (hexEscape character ++ rest) = (readText rest).map (afterCharacter character) :=
  readText_codeUnit (codeUnit?_digitChar small) rest

theorem readText_letter {letter character : Char} (known : escaped? letter = some character)
    (rest : List Char) :
    readText ('\\' :: letter :: rest) = (readText rest).map (afterCharacter character) := by
  have other : letter ≠ 'u' := by
    rintro rfl
    cases known
  rw [readText, known, ← bind_eq_map_afterCharacter]
  · rfl
  · intro _ _ _ _ _ _ _ _ _ same
    exact absurd same other
  · intro _ _ _ _ _ same
    exact absurd same other

theorem readText_plain {character : Char} (quote : character ≠ '"') (escape : character ≠ '\\')
    (printed : ¬character.toNat < 0x20) (rest : List Char) :
    readText (character :: rest) = (readText rest).map (afterCharacter character) := by
  rw [readText, if_neg printed, ← bind_eq_map_afterCharacter]
  · exact fun same => quote same
  · intro _ _ _ _ _ _ _ _ _ same
    exact absurd same escape
  · intro _ _ _ _ _ same
    exact absurd same escape
  · intro _ _ same
    exact absurd same escape

theorem readText_escapeRequired (character : Char) (rest : List Char) :
    readText (escapeRequired character ++ rest) =
      (readText rest).map (afterCharacter character) := by
  unfold escapeRequired
  split
  case h_8 quote escape _ _ _ _ _ =>
    split
    case isTrue control =>
      exact readText_hexEscape character (Nat.lt_trans control (by decide)) rest
    case isFalse printed => exact readText_plain quote escape printed rest
  all_goals exact readText_letter rfl rest

theorem readText_escape (style : Style) (character : Char) (rest : List Char) :
    readText (style.escape character ++ rest) =
      (readText rest).map (afterCharacter character) := by
  cases style with
  | indented => exact readText_escapeRequired character rest
  | compact =>
      change readText (escapeSeparators character ++ rest) = _
      unfold escapeSeparators
      split
      case h_4 => exact readText_escapeRequired character rest
      all_goals
        rename_i separator
        exact readText_hexEscape character (by omega) rest

theorem readText_escaped (style : Style) (text rest : List Char) :
    readText (text.flatMap style.escape ++ '"' :: rest) = .ok (text, rest) := by
  induction text with
  | nil => rw [List.flatMap_nil, List.nil_append, readText]
  | cons character later ih =>
      rw [List.flatMap_cons, List.append_assoc, readText_escape, ih]
      rfl

theorem toList_quote (escape : Char → List Char) (text : String) :
    (quote escape text).toList = '"' :: (text.toList.flatMap escape ++ ['"']) :=
  String.toList_ofList

end StorageCompat.Json
