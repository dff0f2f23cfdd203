import StorageCompat.Proofs.Json.Lines

/-!
Values that are written and read again. Reading follows what was written item by item and entry by
entry; each step of the reader takes a character, so the length of what was written is fuel enough.
-/

namespace StorageCompat.Json

/-- Values that JSON keeps as they are. Numbers with a fraction are left out: whether they come back
is a matter of their shortest decimals. -/
inductive Storable : Value → Prop where
  | null : Storable .null
  | bool (value : Bool) : Storable (.bool value)
  | int {value : Int} (short : Numeral.isWritable value.natAbs = true) : Storable (.int value)
  | text (value : String) : Storable (.text value)
  | list {items : List Value} (each : ∀ item ∈ items, Storable item) : Storable (.list items)
  | object {entries : List (String × Value)} (distinct : (Entries.names entries).Nodup)
      (each : ∀ entry ∈ entries, Storable entry.2) : Storable (.object entries)

theorem skipBlanks_lineBreak (style : Style) (depth : Nat) (rest : List Char) :
    skipBlanks ((style.lineBreak depth).toList ++ rest) = skipBlanks rest := by
  apply List.dropWhile_append_of_pos
  intro character member
  cases style with
  | compact => cases member
  | indented =>
      simp only [Style.lineBreak, String.toList_append, String.toList_ofList, List.mem_append]
        at member
      obtain first | later := member
      · rw [List.mem_singleton.1 first]
        rfl
      · rw [List.eq_of_mem_replicate later]
        rfl

theorem ends_nil : Ends [] := by
  rintro _ ⟨⟩

theorem ends_mark {mark : Char} (known : mark = ',' ∨ mark = ']' ∨ mark = '\x7d')
    (rest : List Char) : Ends (mark :: rest) := by
  rintro _ ⟨⟩
  obtain rfl | rfl | rfl := known <;> decide

theorem ends_lineBreak (style : Style) (depth : Nat) {rest : List Char} (ends : Ends rest) :
    Ends ((style.lineBreak depth).toList ++ rest) := by
  cases style with
  | compact => exact ends
  | indented =>
      rw [Style.lineBreak, String.toList_append]
      rintro _ ⟨⟩
      decide

def Starts (text : List Char) : Prop :=
  ∃ first later, text = first :: later ∧ isBlank first = false ∧ first ≠ ']' ∧ first ≠ '\x7d'

theorem Starts.append {text : List Char} (starts : Starts text) (rest : List Char) :
    Starts (text ++ rest) := by
  obtain ⟨first, later, rfl, marks⟩ := starts
  exact ⟨first, later ++ rest, rfl, marks⟩

theorem Starts.skipBlanks_eq {text : List Char} (starts : Starts text) :
    skipBlanks text = text := by
  obtain ⟨first, later, rfl, visible, _⟩ := starts
  apply List.dropWhile_cons_of_neg
  rw [visible]
  exact Bool.false_ne_true

theorem skipBlanks_line (style : Style) (depth : Nat) {text : List Char} (starts : Starts text) :
    skipBlanks ((style.lineBreak depth).toList ++ text) = text := by
  rw [skipBlanks_lineBreak, starts.skipBlanks_eq]

theorem starts_quote (escape : Char → List Char) (text : String) :
    Starts (quote escape text).toList := by
  rw [toList_quote]
  exact ⟨'"', _, rfl, rfl, by decide, by decide⟩

theorem starts_enclose (style : Style) {opening closing : String} (depth : Nat)
    (items : List String) (starts : Starts opening.toList) :
    Starts (style.enclose opening closing depth items).toList := by
  cases items with
  | nil =>
      rw [Style.enclose, String.toList_append]
      exact starts.append _
  | cons item items =>
      simp only [Style.enclose, String.toList_append]
      exact (((starts.append _).append _).append _).append _

theorem starts_toDigits (number : Nat) (rest : List Char) :
    ∃ first later, Nat.toDigits 10 number ++ rest = first :: later ∧ first.isDigit = true := by
  have nonempty : Nat.toDigits 10 number ≠ [] := Nat.toDigits_ne_nil
  obtain ⟨first, later, digits⟩ := List.exists_cons_of_ne_nil nonempty
  refine ⟨first, later ++ rest, by rw [digits, List.cons_append], ?_⟩
  exact Numeral.isDigit_toDigits (by rw [digits]; exact List.mem_cons_self)

theorem starts_of_isDigit {first : Char} (digit : first.isDigit = true) (later : List Char) :
    Starts (first :: later) := by
  refine ⟨first, later, rfl, ?_, Text.ne_of_isDigit digit rfl, Text.ne_of_isDigit digit rfl⟩
  have other (blank : Char) (mark : blank.isDigit = false) : decide (first = blank) = false :=
    decide_eq_false (Text.ne_of_isDigit digit mark)
  rw [isBlank, other ' ' rfl, other '\t' rfl, other '\n' rfl, other '\r' rfl]
  rfl

theorem starts_toString (number : Int) : Starts (toString number).toList := by
  obtain ⟨first, later, digits, digit⟩ := starts_toDigits number.natAbs []
  rw [List.append_nil] at digits
  rw [toList_toString, digits]
  split
  · exact ⟨'-', _, rfl, rfl, by decide, by decide⟩
  · exact starts_of_isDigit digit later

theorem starts_write (style : Style) (depth : Nat) {value : Value} (storable : Storable value) :
    Starts (write style depth value).toList := by
  cases storable with
  | null =>
      rw [write]
      exact ⟨'n', _, rfl, rfl, by decide, by decide⟩
  | bool value =>
      cases value with
      | true =>
          rw [write]
          exact ⟨'t', _, rfl, rfl, by decide, by decide⟩
      | false =>
          rw [write]
          exact ⟨'f', _, rfl, rfl, by decide, by decide⟩
  | int short =>
      rw [write]
      exact starts_toString _
  | text value =>
      rw [write]
      exact starts_quote _ _
  | list each =>
      rw [write]
      exact starts_enclose style depth _ ⟨'[', _, rfl, rfl, by decide, by decide⟩
  | object distinct each =>
      rw [write]
      exact starts_enclose style depth _ ⟨'\x7b', _, rfl, rfl, by decide, by decide⟩

def ReadsBack (style : Style) (value : Value) : Prop :=
  ∀ depth fuel rest, Ends rest → (write style depth value).toList.length ≤ fuel + 1 →
    readValue (fuel + 1) ((write style depth value).toList ++ rest) = .ok (value, rest)

theorem ReadsBack.readValue_eq {style : Style} {value : Value} (reads : ReadsBack style value)
    (storable : Storable value) {depth fuel : Nat} {rest : List Char} (ends : Ends rest)
    (enough : (write style depth value).toList.length ≤ fuel) :
    readValue fuel ((write style depth value).toList ++ rest) = .ok (value, rest) := by
  cases fuel with
  | zero =>
      obtain ⟨first, later, text, _⟩ := starts_write style depth storable
      rw [text] at enough
      exact absurd enough (Nat.not_succ_le_zero _)
  | succ fuel => exact reads depth fuel rest ends enough

theorem readsBack_null (style : Style) : ReadsBack style .null := by
  intro depth fuel rest _ _
  rw [write]
  rfl

theorem readsBack_bool (style : Style) (value : Bool) : ReadsBack style (.bool value) := by
  intro depth fuel rest _ _
  cases value with
  | true =>
      rw [write]
      rfl
  | false =>
      rw [write]
      rfl

theorem readValue_quote (fuel : Nat) (text : List Char) :
    readValue (fuel + 1) ('"' :: text) =
      readText text >>= fun found => .ok (.text (String.ofList found.1), found.2) := rfl

theorem readsBack_text (style : Style) (value : String) : ReadsBack style (.text value) := by
  intro depth fuel rest _ _
  rw [write, toList_quote, List.cons_append, List.append_assoc, readValue_quote]
  change readText (value.toList.flatMap style.escape ++ '"' :: rest) >>= _ = _
  rw [readText_escaped]
  change Except.ok (Value.text (String.ofList value.toList), rest) = _
  rw [String.ofList_toList]

theorem readValue_digit (fuel : Nat) {first : Char} (digit : first.isDigit = true)
    (later : List Char) :
    readValue (fuel + 1) (first :: later) = readNumber false (first :: later) := by
  have word : readConstant (first :: later) = none :=
    readConstant_eq_none ⟨first, List.mem_cons_self, digit⟩
  have other (mark : Char) (sign : mark.isDigit = false) : first ≠ mark :=
    Text.ne_of_isDigit digit sign
  rw [readValue, word]
  · intro _ same
    exact other '"' rfl (List.cons.inj same).1
  · intro _ same
    exact other '\x7b' rfl (List.cons.inj same).1
  · intro _ same
    exact other '[' rfl (List.cons.inj same).1
  · intro _ same
    exact other '-' rfl (List.cons.inj same).1

theorem readValue_minus (fuel : Nat) {first : Char} (digit : first.isDigit = true)
    (later : List Char) :
    readValue (fuel + 1) ('-' :: first :: later) = readNumber true (first :: later) := by
  have word : readConstant ('-' :: first :: later) = none :=
    readConstant_eq_none ⟨first, List.mem_cons_of_mem _ List.mem_cons_self, digit⟩
  rw [readValue, word]

theorem readsBack_int (style : Style) {value : Int}
    (short : Numeral.isWritable value.natAbs = true) : ReadsBack style (.int value) := by
  intro depth fuel rest ends _
  obtain ⟨first, later, digits, digit⟩ := starts_toDigits value.natAbs rest
  have read (negative : Bool) := readNumber_toDigits ends negative short
  rw [digits] at read
  rw [write, toList_toString, List.append_assoc, digits]
  split
  case isTrue below =>
    have size : Numeral.signed true value.natAbs = value := by
      rw [Numeral.signed, if_pos rfl]
      omega
    rw [List.singleton_append, readValue_minus fuel digit, read, size]
  case isFalse above =>
    have size : Numeral.signed false value.natAbs = value := by
      rw [Numeral.signed, if_neg Bool.false_ne_true]
      omega
    rw [List.nil_append, readValue_digit fuel digit, read, size]

section Items

variable {fuel : Nat} {text between more rest : List Char} {value : Value}

theorem readItems_last (read : readValue fuel text = .ok (value, between))
    (closed : skipBlanks between = ']' :: rest) :
    readItems (fuel + 1) text = .ok ([value], rest) := by
  rw [readItems, read]
  dsimp only [bind, Except.bind]
  rw [closed]
  rfl

theorem readItems_more {values : List Value} (read : readValue fuel text = .ok (value, between))
    (goesOn : skipBlanks between = ',' :: more)
    (later : readItems fuel (skipBlanks more) = .ok (values, rest)) :
    readItems (fuel + 1) text = .ok (value :: values, rest) := by
  rw [readItems, read]
  dsimp only [bind, Except.bind]
  rw [goesOn]
  simp only [later]
  rfl

end Items

theorem starts_separated (style : Style) (depth : Nat) {piece : List Char}
    (starts : Starts piece) (others : List (List Char)) :
    Starts (separated style depth (piece :: others)) := by
  cases others with
  | nil =>
      rw [separated_singleton]
      exact starts
  | cons next others =>
      rw [separated_cons _ _ _ (List.cons_ne_nil _ _)]
      exact starts.append _

def writtenItems (style : Style) (depth : Nat) (items : List Value) : List (List Char) :=
  items.map fun item => (write style depth item).toList

theorem readItems_separated (style : Style) (depth depth' : Nat) {item : Value}
    {others : List Value}
    (each : ∀ item' ∈ item :: others, Storable item' ∧ ReadsBack style item') {fuel : Nat}
    {rest : List Char}
    (enough : (separated style depth (writtenItems style depth (item :: others))).length < fuel) :
    readItems fuel (separated style depth (writtenItems style depth (item :: others)) ++
      ((style.lineBreak depth').toList ++ ']' :: rest)) = .ok (item :: others, rest) := by
  induction others generalizing item fuel with
  | nil =>
      obtain ⟨storable, reads⟩ := each item List.mem_cons_self
      rw [writtenItems, List.map_singleton, separated_singleton] at enough ⊢
      cases fuel with
      | zero => exact absurd enough (Nat.not_lt_zero _)
      | succ fuel =>
          have ends := ends_lineBreak style depth' (ends_mark (Or.inr (Or.inl rfl)) rest)
          refine readItems_last (reads.readValue_eq storable ends (Nat.le_of_lt_succ enough)) ?_
          rw [skipBlanks_lineBreak]
          rfl
  | cons next others ih =>
      obtain ⟨⟨storable, reads⟩, each⟩ := List.forall_mem_cons.1 each
      have parts : separated style depth (writtenItems style depth (item :: next :: others)) =
          (write style depth item).toList ++ ',' :: ((style.lineBreak depth).toList ++
            separated style depth (writtenItems style depth (next :: others))) :=
        separated_cons style depth _ (List.cons_ne_nil _ _)
      have starts : Starts (separated style depth (writtenItems style depth (next :: others))) :=
        starts_separated style depth (starts_write style depth (each next List.mem_cons_self).1) _
      rw [parts, List.length_append, List.length_cons, List.length_append] at enough
      rw [parts, List.append_assoc, List.cons_append, List.append_assoc]
      cases fuel with
      | zero => exact absurd enough (Nat.not_lt_zero _)
      | succ fuel =>
          have ends := ends_mark (Or.inl rfl)
          refine readItems_more (reads.readValue_eq storable (ends _) (by omega)) rfl ?_
          rw [skipBlanks_line _ _ (starts.append _)]
          exact ih each (by omega)

theorem readValue_list {fuel : Nat} {inner text rest : List Char} {items : List Value}
    (skipped : skipBlanks inner = text) (starts : Starts text)
    (read : readItems fuel text = .ok (items, rest)) :
    readValue (fuel + 1) ('[' :: inner) = .ok (.list items, rest) := by
  obtain ⟨first, later, rfl, _, other, _⟩ := starts
  rw [readValue, skipped]
  split
  case h_1 pattern => exact absurd (List.cons.inj pattern).1 other
  case h_2 =>
    rw [read]
    rfl

theorem readsBack_list (style : Style) {items : List Value}
    (each : ∀ item ∈ items, Storable item ∧ ReadsBack style item) :
    ReadsBack style (.list items) := by
  intro depth fuel rest ends enough
  have opens : "[".toList = ['['] := rfl
  have closes : "]".toList = [']'] := rfl
  rw [write, writeItems_eq_map] at enough ⊢
  cases items with
  | nil =>
      rw [List.map_nil, Style.enclose, String.toList_append, opens, closes]
      rfl
  | cons item others =>
      have written : (write style (depth + 1) item :: others.map (write style (depth + 1))).map
          String.toList = writtenItems style (depth + 1) (item :: others) := by
        rw [← List.map_cons, List.map_map]
        rfl
      have starts : Starts (separated style (depth + 1)
          (writtenItems style (depth + 1) (item :: others))) :=
        starts_separated style (depth + 1)
          (starts_write style (depth + 1) (each item List.mem_cons_self).1) _
      rw [List.map_cons, toList_enclose, written, opens, closes] at enough ⊢
      simp only [List.length_append, List.length_cons] at enough
      simp only [List.append_assoc, List.cons_append, List.nil_append]
      refine readValue_list (skipBlanks_line _ _ (starts.append _)) (starts.append _) ?_
      exact readItems_separated style (depth + 1) depth each (by omega)

theorem toList_writeEntry (style : Style) (depth : Nat) (entry : String × Value) :
    (writeEntry style depth entry).toList =
      '"' :: (entry.1.toList.flatMap style.escape ++
        '"' :: ':' :: ' ' :: (write style depth entry.2).toList) := by
  have colon : ": ".toList = [':', ' '] := rfl
  rw [writeEntry, String.toList_append, String.toList_append, toList_quote, colon]
  simp only [List.cons_append, List.append_assoc, List.nil_append]

/-- An entry is read and entered, and what stands behind it says whether there are more. -/
theorem readEntries_writeEntry (style : Style) (depth : Nat) {entry : String × Value}
    (storable : Storable entry.2) (reads : ReadsBack style entry.2)
    (before : List (String × Value)) {fuel : Nat} {between : List Char} (ends : Ends between)
    (enough : (writeEntry style depth entry).toList.length ≤ fuel) :
    readEntries (fuel + 1) before ((writeEntry style depth entry).toList ++ between) =
      match skipBlanks between with
      | ',' :: rest => readEntries fuel (Entries.insert entry.1 entry.2 before) (skipBlanks rest)
      | '\x7d' :: rest => .ok (.object (Entries.insert entry.1 entry.2 before), rest)
      | _ => .error .malformed := by
  have starts := (starts_write style depth storable).append between
  have skipped : skipBlanks (' ' :: ((write style depth entry.2).toList ++ between)) =
      (write style depth entry.2).toList ++ between := starts.skipBlanks_eq
  rw [toList_writeEntry] at enough ⊢
  simp only [List.length_append, List.length_cons] at enough
  have read : readValue fuel ((write style depth entry.2).toList ++ between) =
      .ok (entry.2, between) := reads.readValue_eq storable ends (by omega)
  simp only [List.cons_append, List.append_assoc]
  rw [readEntries]
  change readText (_ ++ '"' :: ':' :: ' ' ::
    ((write style depth entry.2).toList ++ between)) >>= _ = _
  rw [readText_escaped]
  change readValue fuel
    (skipBlanks (' ' :: ((write style depth entry.2).toList ++ between))) >>= _ = _
  rw [skipped, read]
  change (match skipBlanks between with
    | ',' :: rest => readEntries fuel
        (Entries.insert (String.ofList entry.1.toList) entry.2 before) (skipBlanks rest)
    | '\x7d' :: rest =>
        .ok (.object (Entries.insert (String.ofList entry.1.toList) entry.2 before), rest)
    | _ => .error .malformed) = _
  rw [String.ofList_toList]

def writtenEntries (style : Style) (depth : Nat) (entries : List (String × Value)) :
    List (List Char) :=
  entries.map fun entry => (writeEntry style depth entry).toList

theorem starts_writeEntry (style : Style) (depth : Nat) (entry : String × Value) :
    Starts (writeEntry style depth entry).toList := by
  rw [toList_writeEntry]
  exact ⟨'"', _, rfl, rfl, by decide, by decide⟩

theorem readEntries_separated (style : Style) (depth depth' : Nat) {entry : String × Value}
    {others : List (String × Value)}
    (each : ∀ entry' ∈ entry :: others, Storable entry'.2 ∧ ReadsBack style entry'.2)
    {before : List (String × Value)}
    (distinct : (Entries.names (before ++ entry :: others)).Nodup) {fuel : Nat} {rest : List Char}
    (enough :
      (separated style depth (writtenEntries style depth (entry :: others))).length < fuel) :
    readEntries fuel before
        (separated style depth (writtenEntries style depth (entry :: others)) ++
          ((style.lineBreak depth').toList ++ '\x7d' :: rest)) =
      .ok (.object (before ++ entry :: others), rest) := by
  induction others generalizing entry before fuel with
  | nil =>
      obtain ⟨storable, reads⟩ := each entry List.mem_cons_self
      have entered : Entries.insert entry.1 entry.2 before = before ++ [entry] :=
        Entries.insert_of_not_mem (Entries.not_mem_of_nodup distinct) entry.2
      rw [writtenEntries, List.map_singleton, separated_singleton] at enough ⊢
      cases fuel with
      | zero => exact absurd enough (Nat.not_lt_zero _)
      | succ fuel =>
          have ends := ends_lineBreak style depth' (ends_mark (Or.inr (Or.inr rfl)) rest)
          rw [readEntries_writeEntry style depth storable reads before ends
            (Nat.le_of_lt_succ enough), skipBlanks_lineBreak, entered]
          rfl
  | cons next others ih =>
      obtain ⟨⟨storable, reads⟩, each⟩ := List.forall_mem_cons.1 each
      have entered : Entries.insert entry.1 entry.2 before = before ++ [entry] :=
        Entries.insert_of_not_mem (Entries.not_mem_of_nodup distinct) entry.2
      have parts : separated style depth (writtenEntries style depth (entry :: next :: others)) =
          (writeEntry style depth entry).toList ++ ',' :: ((style.lineBreak depth).toList ++
            separated style depth (writtenEntries style depth (next :: others))) :=
        separated_cons style depth _ (List.cons_ne_nil _ _)
      have starts : Starts (separated style depth (writtenEntries style depth (next :: others))) :=
        starts_separated style depth (starts_writeEntry style depth next) _
      rw [parts, List.length_append, List.length_cons, List.length_append] at enough
      rw [parts, List.append_assoc, List.cons_append, List.append_assoc]
      cases fuel with
      | zero => exact absurd enough (Nat.not_lt_zero _)
      | succ fuel =>
          have ends := ends_mark (Or.inl rfl)
          have short : (writeEntry style depth entry).toList.length ≤ fuel := by omega
          rw [readEntries_writeEntry style depth storable reads before (ends _) short]
          change readEntries fuel (Entries.insert entry.1 entry.2 before) (skipBlanks _) = _
          have moved : before ++ entry :: next :: others = before ++ [entry] ++ next :: others :=
            List.append_cons before entry (next :: others)
          rw [moved] at distinct ⊢
          rw [skipBlanks_line _ _ (starts.append _), entered]
          exact ih each distinct (by omega)

theorem readValue_object {fuel : Nat} {inner text rest : List Char} {value : Value}
    (skipped : skipBlanks inner = text) (starts : Starts text)
    (read : readEntries fuel [] text = .ok (value, rest)) :
    readValue (fuel + 1) ('\x7b' :: inner) = .ok (value, rest) := by
  obtain ⟨first, later, rfl, _, _, other⟩ := starts
  rw [readValue, skipped]
  split
  case h_1 pattern => exact absurd (List.cons.inj pattern).1 other
  case h_2 => exact read

theorem readsBack_object (style : Style) {entries : List (String × Value)}
    (distinct : (Entries.names entries).Nodup)
    (each : ∀ entry ∈ entries, Storable entry.2 ∧ ReadsBack style entry.2) :
    ReadsBack style (.object entries) := by
  intro depth fuel rest ends enough
  have opens : "\x7b".toList = ['\x7b'] := rfl
  have closes : "\x7d".toList = ['\x7d'] := rfl
  rw [write, writeEntries_eq_map] at enough ⊢
  cases entries with
  | nil =>
      rw [List.map_nil, Style.enclose, String.toList_append, opens, closes]
      rfl
  | cons entry others =>
      have written : (writeEntry style (depth + 1) entry ::
          others.map (writeEntry style (depth + 1))).map String.toList =
            writtenEntries style (depth + 1) (entry :: others) := by
        rw [← List.map_cons, List.map_map]
        rfl
      have starts : Starts (separated style (depth + 1)
          (writtenEntries style (depth + 1) (entry :: others))) :=
        starts_separated style (depth + 1) (starts_writeEntry style (depth + 1) entry) _
      rw [List.map_cons, toList_enclose, written, opens, closes] at enough ⊢
      simp only [List.length_append, List.length_cons] at enough
      simp only [List.append_assoc, List.cons_append, List.nil_append]
      refine readValue_object (skipBlanks_line _ _ (starts.append _)) (starts.append _) ?_
      exact readEntries_separated style (depth + 1) depth each distinct (by omega)

theorem readsBack (style : Style) {value : Value} (storable : Storable value) :
    ReadsBack style value := by
  induction storable with
  | null => exact readsBack_null style
  | bool value => exact readsBack_bool style value
  | int short => exact readsBack_int style short
  | text value => exact readsBack_text style value
  | list each ih => exact readsBack_list style fun item member => ⟨each item member, ih item member⟩
  | object distinct each ih =>
      exact readsBack_object style distinct fun entry member =>
        ⟨each entry member, ih entry member⟩

theorem read_write (style : Style) {value : Value} (storable : Storable value) :
    read (write style 0 value) = .ok value := by
  have starts := starts_write style 0 storable
  have value_read := readsBack style storable 0 (write style 0 value).toList.length [] ends_nil
    (Nat.le_succ _)
  rw [List.append_nil] at value_read
  rw [read, starts.skipBlanks_eq, value_read]
  rfl

theorem read_lines {value : Value} (storable : Storable value) :
    read (lines value) = .ok value :=
  read_write .indented storable

end StorageCompat.Json
