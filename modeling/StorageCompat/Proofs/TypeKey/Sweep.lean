import StorageCompat.Proofs.TypeKey.Reference

/-!
Erasing from left to right. At each name of a declared type the text is changed behind the
parenthesis that closes it, and reading goes on behind the name, in the changed text. This comes to
the same as erasing from right to left: an id that is erased neither makes nor hides a name or a
parenthesis, and two ids are erased in either order.
-/

namespace StorageCompat.TypeKey

/-- What keeps each character that is no parenthesis and starts no name keeps an id. -/
theorem IsId.kept {id : List Char} (isId : IsId id) (edit : List Char → List Char)
    (step : ∀ {character}, character ≠ '(' → character ≠ ')' → character ≠ 't' → ∀ rest,
      edit (character :: rest) = character :: edit rest) (rest : List Char) :
    edit (id ++ rest) = id ++ edit rest := by
  have plain := isId.plain
  clear isId
  induction id with
  | nil => rfl
  | cons character later ih =>
      obtain ⟨⟨notOpening, notClosing, other⟩, plain⟩ := List.forall_mem_cons.1 plain
      rw [List.cons_append, step notOpening notClosing other, ih plain]
      rfl

/-- The edit keeps what is in front: the first character, and an id. -/
structure KeepsFront (edit : List Char → List Char) : Prop where
  head? : ∀ text, (edit text).head? = text.head?
  append : ∀ {id}, IsId id → ∀ rest, edit (id ++ rest) = id ++ edit rest

theorem keepsFront_dropIdBehind (depth : Nat) : KeepsFront (dropIdBehind depth) where
  head? := head?_dropIdBehind depth
  append isId := isId.kept (dropIdBehind depth)
    fun notOpening notClosing _ rest => dropIdBehind_other depth rest notOpening notClosing

theorem keepsFront_eraseIds : KeepsFront eraseIds where
  head? := head?_eraseIds
  append isId := isId.kept eraseIds
    fun _ _ other rest => eraseIds_cons rest (opensDeclared_cons_ne rest other)

theorem IsId.closes_append {id : List Char} (isId : IsId id) (depth : Nat) (rest : List Char) :
    closes depth (id ++ rest) = closes depth rest := by
  have plain := isId.plain
  clear isId
  induction id with
  | nil => rfl
  | cons character later ih =>
      obtain ⟨⟨notOpening, notClosing, -⟩, plain⟩ := List.forall_mem_cons.1 plain
      rw [List.cons_append, closes_other depth _ notOpening notClosing, ih plain]

section Orders

theorem KeepsFront.dropId_comm {edit : List Char → List Char} (keeps : KeepsFront edit)
    (text : List Char) : dropId (edit text) = edit (dropId text) := by
  by_cases number : EndsNumber text
  · rw [dropId_of_endsNumber number,
      dropId_of_endsNumber (endsNumber_of_head? (keeps.head? text) number)]
  obtain ⟨id, rest, rfl, longest, dropped⟩ := exists_longestId number
  rw [keeps.append longest.isId, dropped rest fun _ known => known]
  exact dropped _ fun character member => keeps.head? rest ▸ member

theorem closes_dropId (depth : Nat) (text : List Char) :
    closes depth (dropId text) = closes depth text := by
  by_cases number : EndsNumber text
  · rw [dropId_of_endsNumber number]
  obtain ⟨id, rest, rfl, longest, dropped⟩ := exists_longestId number
  rw [longest.isId.closes_append, dropped rest fun _ known => known]

theorem closes_dropIdBehind (inner : Nat) (text : List Char) (depth : Nat) :
    closes depth (dropIdBehind inner text) = closes depth text := by
  induction text using scan_induction generalizing inner depth with
  | nil => rfl
  | opening rest ih =>
      rw [dropIdBehind_opening]
      exact Alike.closes_cons (ih (inner + 1)) '(' depth
  | closing rest ih =>
      match inner with
      | 0 => exact Alike.closes_cons (ih 0) ')' depth
      | 1 => exact Alike.closes_cons (fun depth => closes_dropId depth rest) ')' depth
      | inner + 2 => exact Alike.closes_cons (ih (inner + 1)) ')' depth
  | other character rest notOpening notClosing ih =>
      rw [dropIdBehind_other _ _ notOpening notClosing]
      exact Alike.closes_cons (ih inner) character depth

theorem takeWhile_dropIdBehind (inner : Nat) (text : List Char) :
    (dropIdBehind inner text).takeWhile (· != ')') = text.takeWhile (· != ')') := by
  induction text using scan_induction generalizing inner with
  | nil => rfl
  | opening rest ih =>
      rw [dropIdBehind_opening]
      exact Alike.front_cons (ih (inner + 1)) '('
  | closing rest =>
      match inner with
      | 0 => rfl
      | 1 => rfl
      | inner + 2 => rfl
  | other character rest notOpening notClosing ih =>
      rw [dropIdBehind_other _ _ notOpening notClosing]
      exact Alike.front_cons (ih inner) character

theorem opensDeclared_cons_dropIdBehind (character : Char) (inner : Nat) (text : List Char) :
    opensDeclared (character :: dropIdBehind inner text) = opensDeclared (character :: text) := by
  rw [← opensDeclared_takeWhile, Alike.front_cons (takeWhile_dropIdBehind inner text),
    opensDeclared_takeWhile]

theorem dropIdBehind_comm {inner depth : Nat} (deeper : inner < depth) (text : List Char) :
    dropIdBehind inner (dropIdBehind depth text) =
      dropIdBehind depth (dropIdBehind inner text) := by
  induction text using scan_induction generalizing inner depth with
  | nil => rfl
  | opening rest ih => simp only [dropIdBehind_opening, ih (Nat.succ_lt_succ deeper)]
  | closing rest ih =>
      match inner, depth with
      | 0, 1 => exact congrArg _ ((keepsFront_dropIdBehind 0).dropId_comm rest).symm
      | 0, depth + 2 => exact congrArg _ (ih (Nat.succ_pos depth))
      | 1, depth + 2 => exact congrArg _ ((keepsFront_dropIdBehind (depth + 1)).dropId_comm rest)
      | inner + 2, depth + 2 => exact congrArg _ (ih (Nat.lt_of_succ_lt_succ deeper))
  | other character rest notOpening notClosing ih =>
      simp only [dropIdBehind_other _ _ notOpening notClosing, ih deeper]

theorem eraseIds_dropIdBehind (depth : Nat) (text : List Char) :
    eraseIds (dropIdBehind (depth + 1) text) = dropIdBehind (depth + 1) (eraseIds text) := by
  have plain {character : Char} (other : character ≠ 't') (rest : List Char) :
      eraseIds (character :: rest) = character :: eraseIds rest :=
    eraseIds_cons rest (opensDeclared_cons_ne rest other)
  induction text using scan_induction generalizing depth with
  | nil => rfl
  | opening rest ih =>
      rw [dropIdBehind_opening, plain (by decide), plain (by decide), dropIdBehind_opening, ih]
  | closing rest ih =>
      rw [plain (by decide) rest]
      match depth with
      | 0 =>
          rw [dropIdBehind, dropIdBehind, keepsFront_eraseIds.dropId_comm]
          exact plain (by decide) _
      | depth + 1 => exact (plain (by decide) _).trans (congrArg _ (ih depth))
  | other character rest notOpening notClosing ih =>
      rw [dropIdBehind_other _ _ notOpening notClosing, eraseIds, eraseIds,
        opensDeclared_cons_dropIdBehind, ih, ← dropIdBehind_other _ _ notOpening notClosing]
      split
      · exact dropIdBehind_comm (Nat.succ_pos depth) _
      · rfl

end Orders

section Unclosed

variable {text before rest : List Char}

theorem firstUnclosed?_cons_of_plain {character : Char}
    (plain : (opensDeclared (character :: text) && !closes 0 (character :: text)) = false) :
    firstUnclosed? (character :: text) =
      (firstUnclosed? text).map fun found => (character :: found.1, found.2) := by
  rw [firstUnclosed?, plain]
  rfl

theorem firstUnclosed?_cons_of_ne {character : Char} (other : character ≠ 't') :
    firstUnclosed? (character :: text) =
      (firstUnclosed? text).map fun found => (character :: found.1, found.2) := by
  apply firstUnclosed?_cons_of_plain
  rw [opensDeclared_cons_ne text other]
  rfl

theorem IsId.firstUnclosed?_append {id : List Char} (isId : IsId id) (text : List Char) :
    firstUnclosed? (id ++ text) =
      (firstUnclosed? text).map fun found => (id ++ found.1, found.2) := by
  have plain := isId.plain
  clear isId
  induction id with
  | nil => exact Option.map_id'.symm
  | cons character later ih =>
      obtain ⟨⟨-, -, other⟩, plain⟩ := List.forall_mem_cons.1 plain
      rw [List.cons_append, firstUnclosed?_cons_of_ne other, ih plain, Option.map_map]
      rfl

theorem eq_append_of_firstUnclosed? (found : firstUnclosed? text = some (before, rest)) :
    text = before ++ rest := by
  induction text generalizing before with
  | nil => cases found
  | cons character text ih =>
      rw [firstUnclosed?] at found
      split at found
      · cases found
        rfl
      · obtain ⟨⟨front, behind⟩, found', same⟩ := Option.map_eq_some_iff.1 found
        cases same
        rw [List.cons_append, ← ih found']

/-- What is closed in front of a text is not needed to close what the text opens. -/
theorem closes_of_deeper (depth : Nat) (text : List Char)
    (closed : closes (depth + 2) text = true) :
    closes (depth + 1) text = true := by
  induction text using scan_induction generalizing depth with
  | nil => cases closed
  | opening rest ih =>
      rw [closes_opening] at closed ⊢
      exact ih (depth + 1) closed
  | closing rest ih =>
      match depth with
      | 0 => rfl
      | depth + 1 => exact ih depth closed
  | other character rest notOpening notClosing ih =>
      rw [closes_other _ _ notOpening notClosing] at closed ⊢
      exact ih depth closed

/-- Where a parenthesis is closed, so is each that is opened in front of its end. -/
theorem closes_one_of_deeper (depth : Nat) (closed : closes (depth + 1) text = true) :
    closes 1 text = true := by
  induction depth with
  | zero => exact closed
  | succ depth ih => exact ih (closes_of_deeper depth text closed)

theorem closes_word_behind {word : List Char} (member : word ∈ declaredKinds) (depth : Nat)
    (text : List Char) : closes (depth + 1) (word ++ text) = closes (depth + 2) text := by
  simp only [declaredKinds, List.mem_cons, List.not_mem_nil, or_false] at member
  rcases member with rfl | rfl | rfl <;> rfl

theorem closes_of_opensDeclared {depth : Nat} (opens : opensDeclared text = true)
    (closed : closes (depth + 1) text = true) : closes 0 text = true := by
  obtain ⟨word, member, behind, rfl⟩ := (opensDeclared_iff _).1 opens
  rw [closes_word_behind member] at closed
  rw [closes_word member]
  exact closes_one_of_deeper _ closed

theorem firstUnclosed?_dropId (text : List Char) :
    firstUnclosed? (dropId text) =
      (firstUnclosed? text).map fun found => (dropId found.1, found.2) := by
  by_cases number : EndsNumber text
  · rw [dropId_of_endsNumber number]
    cases found : firstUnclosed? text with
    | none => rfl
    | some parts =>
        have number' : EndsNumber parts.1 := by
          intro character member
          obtain ⟨later, same⟩ := List.head?_eq_some_iff.1 member
          apply number character
          rw [eq_append_of_firstUnclosed? found, same]
          rfl
        rw [Option.map_some, dropId_of_endsNumber number']
  obtain ⟨id, behind, rfl, longest, dropped⟩ := exists_longestId number
  rw [longest.isId.firstUnclosed?_append, dropped behind fun _ known => known]
  cases found : firstUnclosed? behind with
  | none => rfl
  | some parts =>
      rw [Option.map_some, Option.map_some, dropped parts.1]
      intro character member
      obtain ⟨later, same⟩ := List.head?_eq_some_iff.1 member
      rw [eq_append_of_firstUnclosed? found, same]
      rfl

theorem firstUnclosed?_dropIdBehind (depth : Nat) (closed : closes (depth + 1) text = true) :
    firstUnclosed? (dropIdBehind (depth + 1) text) =
      (firstUnclosed? text).map fun found => (dropIdBehind (depth + 1) found.1, found.2) := by
  induction text using scan_induction generalizing depth with
  | nil => cases closed
  | opening rest ih =>
      rw [closes_opening] at closed
      rw [dropIdBehind_opening, firstUnclosed?_cons_of_ne (by decide),
        firstUnclosed?_cons_of_ne (by decide), ih (depth + 1) closed, Option.map_map,
        Option.map_map]
      rfl
  | closing rest ih =>
      rw [firstUnclosed?_cons_of_ne (by decide), Option.map_map]
      match depth with
      | 0 =>
          refine (firstUnclosed?_cons_of_ne (by decide)).trans ?_
          rw [firstUnclosed?_dropId, Option.map_map]
          rfl
      | depth + 1 =>
          refine (firstUnclosed?_cons_of_ne (by decide)).trans ?_
          rw [ih depth closed, Option.map_map]
          rfl
  | other character rest notOpening notClosing ih =>
      -- A name that starts here is closed: it lies in front of the end of what is open.
      have plain :
          (opensDeclared (character :: rest) && !closes 0 (character :: rest)) = false := by
        cases opens : opensDeclared (character :: rest) with
        | false => rfl
        | true =>
            rw [closes_of_opensDeclared opens closed]
            rfl
      have plain' : (opensDeclared (character :: dropIdBehind (depth + 1) rest) &&
          !closes 0 (character :: dropIdBehind (depth + 1) rest)) = false := by
        rw [opensDeclared_cons_dropIdBehind, ← dropIdBehind_other _ _ notOpening notClosing,
          closes_dropIdBehind, plain]
      rw [closes_other _ _ notOpening notClosing] at closed
      rw [dropIdBehind_other _ _ notOpening notClosing, firstUnclosed?_cons_of_plain plain,
        firstUnclosed?_cons_of_plain plain', ih depth closed, Option.map_map, Option.map_map]
      apply Option.map_congr
      intro found _
      exact congrArg (·, found.2) (dropIdBehind_other _ _ notOpening notClosing).symm

end Unclosed

section Sweep

theorem dropId_sublist (text : List Char) : (dropId text).Sublist text := by
  by_cases number : EndsNumber text
  · rw [dropId_of_endsNumber number]
  obtain ⟨id, rest, rfl, -, dropped⟩ := exists_longestId number
  rw [dropped rest fun _ known => known]
  exact List.sublist_append_right id rest

theorem dropIdBehind_sublist (depth : Nat) (text : List Char) :
    (dropIdBehind depth text).Sublist text := by
  induction text using scan_induction generalizing depth with
  | nil => exact List.Sublist.refl []
  | opening rest ih =>
      rw [dropIdBehind_opening]
      exact (ih (depth + 1)).cons_cons '('
  | closing rest ih =>
      match depth with
      | 0 => exact (ih 0).cons_cons ')'
      | 1 => exact (dropId_sublist rest).cons_cons ')'
      | depth + 2 => exact (ih (depth + 1)).cons_cons ')'
  | other character rest notOpening notClosing ih =>
      rw [dropIdBehind_other _ _ notOpening notClosing]
      exact (ih depth).cons_cons character

theorem length_dropIdBehind_le (depth : Nat) (text : List Char) :
    (dropIdBehind depth text).length ≤ text.length :=
  (dropIdBehind_sublist depth text).length_le

def word? (text : List Char) : Option (List Char) :=
  declaredKinds.find? fun word => word.isPrefixOf text

theorem mem_of_word? {text word : List Char} (found : word? text = some word) :
    word ∈ declaredKinds :=
  List.mem_of_find?_eq_some found

/-- Reads the text that is ahead, behind what was passed already. At the name of a declared type the
id behind the parenthesis that closes it is erased, and reading goes on behind the name in the
changed text. -/
def sweep (passed : List Char) : (ahead : List Char) → Except Fault (List Char)
  | [] => .ok passed
  | character :: rest =>
      match _found : word? (character :: rest) with
      | some word =>
          let behind := (character :: rest).drop word.length
          if closes 1 behind then sweep (passed ++ word) (dropIdBehind 1 behind)
          else .error (.unclosed (String.ofList (passed ++ character :: rest)))
      | none => sweep (passed ++ [character]) rest
termination_by ahead => ahead.length
decreasing_by
  · have shorter := length_dropIdBehind_le 1 ((character :: rest).drop word.length)
    have positive := List.length_pos_of_ne_nil (word_ne_nil (mem_of_word? _found))
    rw [List.length_drop, List.length_cons] at shorter
    rw [List.length_cons]
    omega
  · exact Nat.lt_succ_self _

theorem word?_eq_none {text : List Char} (plain : opensDeclared text = false) :
    word? text = none := by
  rw [word?, List.find?_eq_none]
  exact List.any_eq_false.1 plain

theorem word?_append {word : List Char} (member : word ∈ declaredKinds) (rest : List Char) :
    word? (word ++ rest) = some word := by
  simp only [declaredKinds, List.mem_cons, List.not_mem_nil, or_false] at member
  rcases member with rfl | rfl | rfl <;> rfl

theorem sweep_cons (passed : List Char) {character : Char} {rest : List Char}
    (plain : opensDeclared (character :: rest) = false) :
    sweep passed (character :: rest) = sweep (passed ++ [character]) rest := by
  rw [sweep]
  split
  case h_1 word found =>
    rw [word?_eq_none plain] at found
    cases found
  case h_2 => rfl

theorem sweep_word (passed : List Char) {word : List Char} (member : word ∈ declaredKinds)
    (rest : List Char) :
    sweep passed (word ++ rest) =
      if closes 1 rest then sweep (passed ++ word) (dropIdBehind 1 rest)
      else .error (.unclosed (String.ofList (passed ++ (word ++ rest)))) := by
  obtain ⟨character, others, same⟩ := List.exists_cons_of_ne_nil (word_ne_nil member)
  have whole : word ++ rest = character :: (others ++ rest) := by rw [same, List.cons_append]
  rw [whole, sweep]
  split
  case h_1 other found =>
    rw [← whole, word?_append member] at found
    cases found
    simp only [← whole, List.drop_left]
  case h_2 found =>
    rw [← whole, word?_append member] at found
    cases found

theorem opensDeclared_of_append {text rest : List Char}
    (plain : opensDeclared (text ++ rest) = false) : opensDeclared text = false := by
  rw [Bool.eq_false_iff] at plain ⊢
  intro opens
  obtain ⟨word, member, behind, rfl⟩ := (opensDeclared_iff _).1 opens
  exact plain ((opensDeclared_iff _).2 ⟨word, member, behind ++ rest, List.append_assoc _ _ _⟩)

theorem opensDeclared_inside {word front part : List Char} (member : word ∈ declaredKinds)
    (inside : word = front ++ part) (proper : front ≠ []) (nonempty : part ≠ [])
    (rest : List Char) : opensDeclared (part ++ rest) = false := by
  rw [Bool.eq_false_iff]
  intro opens
  obtain ⟨other, member', later, same⟩ := (opensDeclared_iff _).1 opens
  have fronts := List.prefix_or_prefix_of_prefix (same ▸ List.prefix_append part rest)
    (List.prefix_append other later)
  have whole := (word_of_part word member part
    ((List.mem_tails _ _).2 (inside ▸ List.suffix_append front part)) nonempty other member'
    fronts).1
  have shorter := congrArg List.length inside
  have positive := List.length_pos_of_ne_nil proper
  rw [whole, List.length_append] at shorter
  omega

theorem firstUnclosed?_append {word front part : List Char} (member : word ∈ declaredKinds)
    (inside : word = front ++ part) (proper : front ≠ []) (rest : List Char) :
    firstUnclosed? (part ++ rest) =
      (firstUnclosed? rest).map fun found => (part ++ found.1, found.2) := by
  induction part generalizing front with
  | nil => exact Option.map_id'.symm
  | cons character part ih =>
      have plain := opensDeclared_inside member inside proper (List.cons_ne_nil _ _) rest
      rw [List.append_cons] at inside
      rw [List.cons_append] at plain ⊢
      rw [firstUnclosed?_cons_of_plain (by rw [plain]; rfl), ih inside (by simp), Option.map_map]
      rfl

theorem firstUnclosed?_word {word : List Char} (member : word ∈ declaredKinds) (rest : List Char) :
    firstUnclosed? (word ++ rest) =
      if closes 1 rest then (firstUnclosed? rest).map fun found => (word ++ found.1, found.2)
      else some ([], word ++ rest) := by
  have opens := (opensDeclared_iff _).2 ⟨word, member, rest, rfl⟩
  have closed := closes_word member rest
  obtain ⟨character, others, rfl⟩ := List.exists_cons_of_ne_nil (word_ne_nil member)
  have inside : character :: others = [character] ++ others := rfl
  rw [List.cons_append] at opens closed ⊢
  rw [firstUnclosed?, opens, closed,
    firstUnclosed?_append member inside (List.cons_ne_nil _ _), Option.map_map]
  cases closes 1 rest with
  | false => rfl
  | true => rfl

theorem sweep_eq (passed ahead : List Char) :
    sweep passed ahead =
      match firstUnclosed? ahead with
      | some (before, rest) =>
          .error (.unclosed (String.ofList (passed ++ (eraseIds before ++ rest))))
      | none => .ok (passed ++ eraseIds ahead) := by
  cases ahead with
  | nil => rw [sweep, firstUnclosed?, eraseIds, List.append_nil]
  | cons character rest =>
      cases opens : opensDeclared (character :: rest) with
      | false =>
          rw [sweep_cons passed opens, sweep_eq (passed ++ [character]) rest,
            firstUnclosed?_cons_of_plain (by rw [opens]; rfl), eraseIds_cons rest opens]
          cases found : firstUnclosed? rest with
          | none => exact congrArg Except.ok (List.append_assoc _ _ _)
          | some parts =>
              rw [eq_append_of_firstUnclosed? found] at opens
              simp only [Option.map_some, eraseIds_cons _ (opensDeclared_of_append opens),
                List.append_assoc, List.cons_append, List.nil_append]
      | true =>
          obtain ⟨word, member, behind, same⟩ := (opensDeclared_iff _).1 opens
          rw [same, sweep_word passed member, firstUnclosed?_word member, eraseIds_word member]
          cases closed : closes 1 behind with
          | false => rfl
          | true =>
              rw [if_pos rfl, if_pos rfl, sweep_eq (passed ++ word) (dropIdBehind 1 behind),
                firstUnclosed?_dropIdBehind 0 closed]
              cases found : firstUnclosed? behind with
              | none =>
                  rw [eraseIds_dropIdBehind, List.append_assoc]
                  rfl
              | some parts =>
                  simp only [Option.map_some, eraseIds_word member, eraseIds_dropIdBehind,
                    List.append_assoc]
termination_by ahead.length
decreasing_by
  · exact Nat.lt_succ_self _
  · have shorter := length_dropIdBehind_le 1 behind
    have positive := List.length_pos_of_ne_nil (word_ne_nil member)
    rw [same, List.length_append]
    omega

theorem sweep_nil (text : List Char) : sweep [] text = withoutIds text := by
  rw [sweep_eq, withoutIds]
  cases firstUnclosed? text with
  | none => rfl
  | some found => rfl

theorem exists_error_iff (text : List Char) :
    (∃ shown, withoutIds text = .error (.unclosed shown)) ↔ ¬AllClosed text := by
  rw [← firstUnclosed?_eq_none_iff, withoutIds]
  cases firstUnclosed? text with
  | none => simp
  | some found => simp

/-- The sweep fails exactly if some declared type is not closed. Otherwise it leaves the text
without the ids behind the parentheses that close declared types, as the text was before the
sweep. -/
theorem withoutIds_reference (text : List Char) :
    sweep [] text = withoutIds text ∧
    ((∃ shown, withoutIds text = .error (.unclosed shown)) ↔ ¬AllClosed text) ∧
    (AllClosed text → ∃ keep : Nat → Bool,
      (∀ place, keep place = false ↔ Within EndsDeclared text place) ∧
      withoutIds text = .ok (pick keep text)) := by
  refine ⟨sweep_nil text, exists_error_iff text, ?_⟩
  intro closed
  classical
  have places (place : Nat) : decide (¬Within EndsDeclared text place) = false ↔
      Within EndsDeclared text place := by
    rw [decide_eq_false_iff_not, not_not]
  refine ⟨_, places, ?_⟩
  rw [withoutIds_eq_ok_iff, firstUnclosed?_eq_none_iff]
  exact ⟨closed, (erased_eraseIds text).eq_pick EndsDeclared.parenthetic _ places⟩

end Sweep

end StorageCompat.TypeKey
