import StorageCompat.Proofs.Json.Numbers
import StorageCompat.Proofs.Json.Texts

/-!
The lines in which values are written. What stands between brackets is separated by commas and line
breaks. The only line end is the plain one, because carriage returns in texts are escaped and
nothing else has any; so a file gives back what was written to it.
-/

namespace StorageCompat

namespace Binary64

def IsNumeric (character : Char) : Prop :=
  character.isDigit = true ∨ character ∈ ['-', '+', '.', 'e']

theorem isDigit_of_mem_shortestFrom (range : Interval) (exponent leading : Int) (more count : Nat) :
    ∀ digit ∈ (shortestFrom range exponent leading more count).digits, digit.isDigit = true := by
  induction more generalizing count with
  | zero =>
      intro digit member
      rw [List.eq_of_mem_replicate member]
      rfl
  | succ more ih =>
      rw [shortestFrom]
      intro digit member
      split at member
      case h_1 => exact Numeral.isDigit_toDigits member
      case h_2 => exact ih _ digit member

theorem isDigit_of_mem_trimmed {decimal : Decimal}
    (digits : ∀ digit ∈ decimal.digits, digit.isDigit = true) :
    ∀ digit ∈ decimal.trimmed, digit.isDigit = true := by
  intro digit member
  unfold Decimal.trimmed at member
  split at member
  case h_1 =>
    rw [List.mem_singleton.1 member]
    rfl
  case h_2 =>
    rw [List.mem_reverse] at member
    exact digits digit (List.mem_reverse.1 ((List.dropWhile_sublist _).mem member))

theorem isNumeric_of_mem_written {decimal : Decimal}
    (digits : ∀ digit ∈ decimal.digits, digit.isDigit = true) :
    ∀ character ∈ decimal.written, IsNumeric character := by
  have trimmed : ∀ digit ∈ decimal.trimmed, IsNumeric digit := fun digit member =>
    Or.inl (isDigit_of_mem_trimmed digits digit member)
  have taken (count : Nat) : ∀ digit ∈ decimal.trimmed.take count, IsNumeric digit :=
    fun digit member => trimmed digit (List.mem_of_mem_take member)
  have zeros (count : Nat) : ∀ digit ∈ List.replicate count '0', IsNumeric digit :=
    fun digit member => Or.inl (by rw [List.eq_of_mem_replicate member]; rfl)
  have size : ∀ digit ∈ Nat.toDigits 10 decimal.exponent.natAbs, IsNumeric digit :=
    fun digit member => Or.inl (Numeral.isDigit_toDigits member)
  simp only [Decimal.written]
  split
  · refine List.forall_mem_append.2 ⟨List.forall_mem_append.2 ⟨taken 1, ?_⟩, ?_⟩
    · split
      case h_1 => simp
      case h_2 =>
        refine List.forall_mem_cons.2 ⟨Or.inr (by decide), ?_⟩
        exact fun digit member => trimmed digit (List.mem_of_mem_drop member)
    · refine List.forall_mem_cons.2 ⟨Or.inr (by decide), List.forall_mem_cons.2 ⟨?_, ?_⟩⟩
      · split <;> exact Or.inr (by decide)
      · split
        · exact List.forall_mem_cons.2 ⟨Or.inl rfl, size⟩
        · exact size
  · split
    · refine List.forall_mem_append.2 ⟨List.forall_mem_append.2 ⟨?_, zeros _⟩, trimmed⟩
      exact List.forall_mem_cons.2 ⟨Or.inl rfl, List.forall_mem_singleton.2 (Or.inr (by decide))⟩
    · refine List.forall_mem_append.2 ⟨List.forall_mem_append.2 ⟨taken _, zeros _⟩, ?_⟩
      refine List.forall_mem_cons.2 ⟨Or.inr (by decide), ?_⟩
      split
      case h_1 => exact List.forall_mem_singleton.2 (Or.inl rfl)
      case h_2 => exact fun digit member => trimmed digit (List.mem_of_mem_drop member)

theorem not_mem_finiteText (negative : Bool) (significand : Nat) (exponent : Int) :
    '\r' ∉ (finiteText negative significand exponent).toList := by
  rw [finiteText, String.toList_ofList, List.mem_append, not_or]
  constructor
  · cases negative <;> decide
  · split
    · decide
    · intro member
      have numeric := isNumeric_of_mem_written (isDigit_of_mem_shortestFrom _ _ _ _ _) _ member
      revert numeric
      unfold IsNumeric
      decide

theorem not_mem_toText (value : Binary64) : '\r' ∉ (value.toText Json.floatSpelling).toList := by
  cases value with
  | nan => decide
  | infinite negative => cases negative <;> decide
  | finite negative significand exponent => exact not_mem_finiteText _ _ _

end Binary64

namespace Json

theorem writeItems_eq_map (style : Style) (depth : Nat) (items : List Value) :
    writeItems style depth items = items.map (write style depth) := by
  induction items with
  | nil => rfl
  | cons item rest ih => rw [writeItems, ih, List.map_cons]

def writeEntry (style : Style) (depth : Nat) (entry : String × Value) : String :=
  quote style.escape entry.1 ++ ": " ++ write style depth entry.2

theorem writeEntries_eq_map (style : Style) (depth : Nat) (entries : List (String × Value)) :
    writeEntries style depth entries = entries.map (writeEntry style depth) := by
  induction entries with
  | nil => rfl
  | cons entry rest ih =>
      obtain ⟨name, value⟩ := entry
      rw [writeEntries, ih, List.map_cons, writeEntry]

def separated (style : Style) (depth : Nat) (pieces : List (List Char)) : List Char :=
  (',' :: (style.lineBreak depth).toList).intercalate pieces

theorem separated_singleton (style : Style) (depth : Nat) (piece : List Char) :
    separated style depth [piece] = piece := List.intercalate_singleton

theorem separated_cons (style : Style) (depth : Nat) (piece : List Char)
    {others : List (List Char)} (nonempty : others ≠ []) :
    separated style depth (piece :: others) =
      piece ++ ',' :: ((style.lineBreak depth).toList ++ separated style depth others) := by
  rw [separated, List.intercalate_cons_of_ne_nil nonempty, List.append_assoc]
  rfl

theorem toList_enclose (style : Style) (opening closing : String) (depth : Nat) (item : String)
    (items : List String) :
    (style.enclose opening closing depth (item :: items)).toList =
      opening.toList ++ ((style.lineBreak (depth + 1)).toList ++
        (separated style (depth + 1) ((item :: items).map String.toList) ++
          ((style.lineBreak depth).toList ++ closing.toList))) := by
  simp only [Style.enclose, String.toList_append, String.toList_intercalate, List.append_assoc]
  rfl

theorem not_mem_hexEscape (character : Char) : '\r' ∉ hexEscape character := by
  simp [hexEscape]

theorem not_mem_escapeRequired (character : Char) : '\r' ∉ escapeRequired character := by
  unfold escapeRequired
  split
  case h_8 other _ =>
    split
    case isTrue => exact not_mem_hexEscape character
    case isFalse => exact fun member => other (List.mem_singleton.1 member).symm
  all_goals decide

theorem not_mem_escape (style : Style) (character : Char) : '\r' ∉ style.escape character := by
  cases style with
  | indented => exact not_mem_escapeRequired character
  | compact =>
      change '\r' ∉ escapeSeparators character
      unfold escapeSeparators
      split
      case h_4 => exact not_mem_escapeRequired character
      all_goals exact not_mem_hexEscape character

theorem not_mem_quote (style : Style) (text : String) :
    '\r' ∉ (quote style.escape text).toList := by
  rw [toList_quote]
  simp [not_mem_escape]

theorem not_mem_lineBreak (style : Style) (depth : Nat) :
    '\r' ∉ (style.lineBreak depth).toList := by
  cases style with
  | compact => exact List.not_mem_nil
  | indented =>
      simp only [Style.lineBreak, String.toList_append, String.toList_ofList, List.mem_append,
        not_or]
      refine ⟨by decide, fun member => ?_⟩
      exact absurd (List.eq_of_mem_replicate member) (by decide)

theorem not_mem_separated (style : Style) (depth : Nat) {pieces : List (List Char)}
    (each : ∀ piece ∈ pieces, '\r' ∉ piece) : '\r' ∉ separated style depth pieces := by
  induction pieces with
  | nil => exact List.not_mem_nil
  | cons piece others ih =>
      obtain ⟨here, each⟩ := List.forall_mem_cons.1 each
      cases others with
      | nil =>
          rw [separated_singleton]
          exact here
      | cons next others =>
          rw [separated_cons _ _ _ (List.cons_ne_nil _ _), List.mem_append, List.mem_cons,
            List.mem_append, not_or, not_or, not_or]
          exact ⟨here, by decide, not_mem_lineBreak style depth, ih each⟩

theorem not_mem_enclose (style : Style) {opening closing : String} (depth : Nat)
    {items : List String} (opens : '\r' ∉ opening.toList) (closes : '\r' ∉ closing.toList)
    (each : ∀ item ∈ items, '\r' ∉ item.toList) :
    '\r' ∉ (style.enclose opening closing depth items).toList := by
  cases items with
  | nil =>
      rw [Style.enclose, String.toList_append, List.mem_append, not_or]
      exact ⟨opens, closes⟩
  | cons item items =>
      simp only [toList_enclose, List.mem_append, not_or]
      have pieces := not_mem_separated style (depth + 1) (List.forall_mem_map.2 each)
      exact ⟨opens, not_mem_lineBreak style _, pieces, not_mem_lineBreak style _, closes⟩

theorem not_mem_toString (number : Int) : '\r' ∉ (toString number).toList := by
  rw [toList_toString, List.mem_append, not_or]
  constructor
  · split <;> decide
  · intro member
    exact absurd (Numeral.isDigit_toDigits member) (by decide)

theorem not_mem_write (style : Style) (depth : Nat) (value : Value) :
    '\r' ∉ (write style depth value).toList := by
  refine write.induct_unfolding style (fun _ _ text => '\r' ∉ text.toList)
    (fun _ _ pieces => ∀ piece ∈ pieces, '\r' ∉ piece.toList)
    (fun _ _ pieces => ∀ piece ∈ pieces, '\r' ∉ piece.toList)
    ?null ?true ?false ?int ?float ?text ?list ?object ?moment ?noItem ?item ?noEntry ?entry
    depth value
  case null => intro; decide
  case true => intro; decide
  case false => intro; decide
  case int => exact fun _ number => not_mem_toString number
  case float => exact fun _ number => number.not_mem_toText
  case text => exact fun _ text => not_mem_quote style text
  case list => exact fun depth _ each => not_mem_enclose style depth (by decide) (by decide) each
  case object => exact fun depth _ each => not_mem_enclose style depth (by decide) (by decide) each
  case moment => exact fun _ text => not_mem_quote style text
  case noItem => simp
  case item => exact fun _ _ _ here later => List.forall_mem_cons.2 ⟨here, later⟩
  case noEntry => simp
  case entry =>
    intro _ name value _ here later
    refine List.forall_mem_cons.2 ⟨?_, later⟩
    rw [String.toList_append, String.toList_append, List.mem_append, List.mem_append, not_or,
      not_or]
    exact ⟨⟨not_mem_quote style name, by decide⟩, here⟩

theorem not_mem_lines (value : Value) : '\r' ∉ (lines value).toList :=
  not_mem_write .indented 0 value

end Json

end StorageCompat
