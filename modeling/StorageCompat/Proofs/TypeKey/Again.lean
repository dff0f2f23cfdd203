import StorageCompat.Proofs.TypeKey.Sweep

/-!
Erasing ids again. What is erased the second time stands directly behind what was erased the first
time: the parentheses that close declared types are the same ones, and each time one id is erased
behind each of them. So nothing is left to erase exactly if no erased id has a digit behind it.
-/

namespace StorageCompat.TypeKey

section Shortened

theorem eraseIds_sublist (text : List Char) : (eraseIds text).Sublist text := by
  induction text using words_induction with
  | nil => exact List.Sublist.refl []
  | plain character rest plain ih =>
      rw [eraseIds_cons rest plain]
      exact ih.cons_cons character
  | word word member rest ih =>
      rw [eraseIds_word member]
      exact ((dropIdBehind_sublist 1 _).trans ih).append_left word

/-- The one edit takes as much from the text as from what the other one leaves of it. -/
def Independent (first second : List Char → List Char) (text : List Char) : Prop :=
  (first (second text)).length + text.length = (first text).length + (second text).length

theorem KeepsFront.independent_dropId {edit : List Char → List Char} (keeps : KeepsFront edit)
    (text : List Char) : Independent dropId edit text := by
  unfold Independent
  by_cases number : EndsNumber text
  · rw [dropId_of_endsNumber number,
      dropId_of_endsNumber (endsNumber_of_head? (keeps.head? text) number), Nat.add_comm]
  obtain ⟨id, rest, rfl, longest, dropped⟩ := exists_longestId number
  rw [keeps.append longest.isId, dropped rest fun _ known => known,
    dropped (edit rest) fun character member => keeps.head? rest ▸ member, List.length_append,
    List.length_append]
  omega

theorem independent_dropIdBehind {inner depth : Nat} (deeper : inner < depth) (text : List Char) :
    Independent (dropIdBehind inner) (dropIdBehind depth) text := by
  have further {first second : List Char → List Char} {rest : List Char}
      (independent : Independent first second rest) (character : Char) :
      (character :: first (second rest)).length + (character :: rest).length =
        (character :: first rest).length + (character :: second rest).length := by
    unfold Independent at independent
    simp only [List.length_cons]
    omega
  have front (depth : Nat) (text : List Char) : Independent dropId (dropIdBehind depth) text :=
    (keepsFront_dropIdBehind depth).independent_dropId text
  unfold Independent
  induction text using scan_induction generalizing inner depth with
  | nil => rfl
  | opening rest ih =>
      simp only [dropIdBehind_opening]
      exact further (ih (Nat.succ_lt_succ deeper)) '('
  | closing rest ih =>
      match inner, depth with
      | 0, 1 =>
          have swapped := front 0 rest
          unfold Independent at swapped
          rw [(keepsFront_dropIdBehind 0).dropId_comm, Nat.add_comm (dropId rest).length] at swapped
          exact further swapped ')'
      | 0, depth + 2 => exact further (ih (Nat.succ_pos depth)) ')'
      | 1, depth + 2 => exact further (front (depth + 1) rest) ')'
      | inner + 2, depth + 2 => exact further (ih (Nat.lt_of_succ_lt_succ deeper)) ')'
  | other character rest notOpening notClosing ih =>
      simp only [dropIdBehind_other _ _ notOpening notClosing]
      exact further (ih deeper) character

/-- Erasing elsewhere neither hides nor makes the name of a declared type. -/
theorem takeWhile_eraseIds (text : List Char) :
    (eraseIds text).takeWhile (· != ')') = text.takeWhile (· != ')') := by
  induction text using words_induction with
  | nil => rfl
  | plain character rest plain ih =>
      rw [eraseIds_cons rest plain]
      exact Alike.front_cons ih character
  | word word member rest ih =>
      rw [eraseIds_word member, takeWhile_word member, takeWhile_word member,
        takeWhile_dropIdBehind, ih]

theorem opensDeclared_cons_eraseIds (character : Char) (text : List Char) :
    opensDeclared (character :: eraseIds text) = opensDeclared (character :: text) := by
  rw [← opensDeclared_takeWhile, Alike.front_cons (takeWhile_eraseIds text),
    opensDeclared_takeWhile]

/-- The id behind an outer parenthesis is none of those that are erased further in. -/
theorem independent_eraseIds (depth : Nat) (text : List Char) :
    Independent (dropIdBehind (depth + 1)) eraseIds text := by
  unfold Independent
  induction text using scan_induction generalizing depth with
  | nil => rfl
  | opening rest ih =>
      rw [eraseIds_cons rest (opensDeclared_cons_ne rest (by decide))]
      have inner := ih (depth + 1)
      simp only [dropIdBehind_opening, List.length_cons]
      omega
  | closing rest ih =>
      rw [eraseIds_cons rest (opensDeclared_cons_ne rest (by decide))]
      match depth with
      | 0 =>
          have front := keepsFront_eraseIds.independent_dropId rest
          have closed (text : List Char) : dropIdBehind 1 (')' :: text) = ')' :: dropId text := rfl
          unfold Independent at front
          simp only [closed, List.length_cons]
          omega
      | depth + 1 =>
          have inner := ih depth
          simp only [dropIdBehind, List.length_cons]
          omega
  | other character rest notOpening notClosing ih =>
      have inner := ih depth
      rw [eraseIds]
      split
      case isFalse =>
        simp only [dropIdBehind_other _ _ notOpening notClosing, List.length_cons]
        omega
      case isTrue =>
        -- A name starts here, so an id further in is erased as well.
        have deeper : 0 < depth + 1 := Nat.succ_pos depth
        have apart := independent_dropIdBehind deeper (eraseIds rest)
        unfold Independent at apart
        rw [← dropIdBehind_comm deeper]
        simp only [dropIdBehind_other _ _ notOpening notClosing, List.length_cons]
        omega

/-- Each of two edits that leaves what the other one left leaves the text itself. -/
theorem eq_of_independent {first second : List Char → List Char} {text : List Char}
    (independent : Independent first second text) (shrinks : (second text).Sublist text)
    (same : first (second text) = first text) : second text = text := by
  unfold Independent at independent
  rw [same] at independent
  apply shrinks.eq_of_length
  omega

/-- Behind the name of a declared type nothing is left to erase the second time exactly if this is
so of the id behind the parenthesis that closes it, and of what is erased further in. -/
theorem dropIdBehind_eraseIds_again_iff (text : List Char) :
    dropIdBehind 1 (eraseIds (dropIdBehind 1 (eraseIds text))) = dropIdBehind 1 (eraseIds text) ↔
      dropIdBehind 1 (dropIdBehind 1 text) = dropIdBehind 1 text ∧
        eraseIds (eraseIds text) = eraseIds text := by
  have swap (text : List Char) :
      eraseIds (dropIdBehind 1 text) = dropIdBehind 1 (eraseIds text) :=
    eraseIds_dropIdBehind 0 text
  have apart (text : List Char) : Independent (dropIdBehind 1) eraseIds text :=
    independent_eraseIds 0 text
  constructor
  · intro again
    have inner := eraseIds_sublist (dropIdBehind 1 (eraseIds text))
    have outer := dropIdBehind_sublist 1 (eraseIds (dropIdBehind 1 (eraseIds text)))
    rw [again] at outer
    have kept := inner.eq_of_length_le outer.length_le
    rw [kept] at again
    constructor
    · have apart' : Independent eraseIds (dropIdBehind 1) (dropIdBehind 1 text) := by
        have independent := apart (dropIdBehind 1 text)
        unfold Independent at independent ⊢
        rw [swap]
        omega
      apply eq_of_independent apart' (dropIdBehind_sublist 1 _)
      rw [swap, swap, again]
    · apply eq_of_independent (apart (eraseIds text)) (eraseIds_sublist _)
      rw [← swap, kept]
  · intro again
    calc
      _ = dropIdBehind 1 (dropIdBehind 1 (eraseIds text)) := by rw [swap, again.2]
      _ = eraseIds (dropIdBehind 1 (dropIdBehind 1 text)) := by rw [swap, swap]
      _ = dropIdBehind 1 (eraseIds text) := by rw [again.1, swap]

end Shortened

/-- No longest id that stands behind one of the fronts has a digit behind it. -/
def LoneIds (ends : List Char → Prop) (text : List Char) : Prop :=
  ∀ front id rest, text = front ++ (id ++ rest) → ends front → LongestId id (id ++ rest) →
    EndsNumber rest

namespace LoneIds

variable {ends ends' : List Char → Prop} {text rest : List Char}

theorem congr (same : ∀ front, front <+: text → (ends front ↔ ends' front)) :
    LoneIds ends text ↔ LoneIds ends' text := by
  unfold LoneIds
  apply forall₄_congr
  intro front id rest whole
  rw [same front (whole ▸ List.prefix_append front _)]

theorem or_iff :
    LoneIds (fun front => ends front ∨ ends' front) text ↔
      LoneIds ends text ∧ LoneIds ends' text := by
  unfold LoneIds
  constructor
  · intro lone
    exact ⟨fun front id rest whole known => lone front id rest whole (Or.inl known),
      fun front id rest whole known => lone front id rest whole (Or.inr known)⟩
  · intro lone front id rest whole known
    cases known with
    | inl known => exact lone.1 front id rest whole known
    | inr known => exact lone.2 front id rest whole known

theorem cons_iff {character : Char} (untouched : ¬ends []) :
    LoneIds ends (character :: rest) ↔ LoneIds (fun front => ends (character :: front)) rest := by
  constructor
  · intro lone front id later whole known longest
    exact lone (character :: front) id later (congrArg _ whole) known longest
  · intro lone front id later whole known longest
    cases front with
    | nil => exact absurd known untouched
    | cons first front =>
        obtain ⟨rfl, behind⟩ := List.cons.inj whole
        exact lone front id later behind known longest

theorem append_iff {before : List Char}
    (untouched : ∀ part, part <+: before → part ≠ before → ¬ends part) :
    LoneIds ends (before ++ rest) ↔ LoneIds (fun front => ends (before ++ front)) rest := by
  induction before generalizing ends with
  | nil => rfl
  | cons character before ih =>
      have here := untouched [] List.nil_prefix (List.cons_ne_nil _ _).symm
      rw [List.cons_append, cons_iff here, ih]
      · rfl
      · intro part initial proper
        exact untouched _ (List.cons_prefix_cons.2 ⟨rfl, initial⟩)
          (fun same => proper (List.cons.inj same).2)

theorem front_iff {id : List Char} (longest : LongestId id (id ++ rest)) :
    LoneIds (fun front => front = []) (id ++ rest) ↔ EndsNumber rest := by
  constructor
  · intro lone
    exact lone [] id rest rfl rfl longest
  · intro lone front other later whole known longest'
    rw [known, List.nil_append] at whole
    rw [← whole] at longest'
    have shorter := longest.longest other longest'.isId longest'.front
    have longer := longest'.longest id longest.isId longest.front
    obtain ⟨-, rfl⟩ := List.append_inj whole (Nat.le_antisymm longer shorter)
    exact lone

end LoneIds

theorem dropId_eq_iff (text : List Char) : dropId text = text ↔ EndsNumber text := by
  constructor
  · intro same
    by_contra number
    obtain ⟨id, rest, rfl, longest, dropped⟩ := exists_longestId number
    rw [dropped rest fun _ known => known] at same
    obtain ⟨digit, others, rfl, -⟩ := longest.isId.exists_digit
    have length := congrArg List.length same
    rw [List.length_append, List.length_cons] at length
    omega
  · exact dropId_of_endsNumber

theorem dropId_again_iff (text : List Char) :
    dropId (dropId text) = dropId text ↔ LoneIds (fun front => front = []) text := by
  by_cases number : EndsNumber text
  · rw [dropId_of_endsNumber number, dropId_of_endsNumber number]
    refine iff_of_true rfl ?_
    intro front id rest whole known longest
    rw [whole, known] at number
    exact absurd number (longest.isId.not_endsNumber rest)
  obtain ⟨id, rest, rfl, longest, dropped⟩ := exists_longestId number
  rw [dropped rest fun _ known => known, LoneIds.front_iff longest, dropId_eq_iff]

theorem dropIdBehind_again_iff (depth : Nat) (text : List Char) :
    dropIdBehind (depth + 1) (dropIdBehind (depth + 1) text) = dropIdBehind (depth + 1) text ↔
      LoneIds (Closing (depth + 1)) text := by
  have untouched (depth : Nat) : ¬Closing (depth + 1) [] := by
    rw [closing_nil_iff]
    exact Nat.succ_ne_zero depth
  induction text using scan_induction generalizing depth with
  | nil =>
      refine iff_of_true rfl ?_
      intro front id rest whole known
      obtain ⟨rfl, -⟩ := List.append_eq_nil_iff.1 whole.symm
      exact absurd known (untouched depth)
  | opening rest ih =>
      rw [LoneIds.cons_iff (untouched depth)]
      simp only [dropIdBehind_opening, List.cons.injEq, true_and, closing_opening_iff]
      exact ih (depth + 1)
  | closing rest ih =>
      rw [LoneIds.cons_iff (untouched depth)]
      simp only [closing_closing_iff]
      match depth with
      | 0 =>
          simp only [closing_zero_iff, ← dropId_again_iff]
          exact List.cons_inj_right ')'
      | depth + 1 => exact (List.cons_inj_right ')').trans (ih depth)
  | other character rest notOpening notClosing ih =>
      rw [LoneIds.cons_iff (untouched depth)]
      simp only [dropIdBehind_other _ _ notOpening notClosing, List.cons.injEq, true_and,
        closing_other_iff _ _ notOpening notClosing]
      exact ih depth

/-- Nothing is left to erase exactly if no id that was erased had a digit behind it. -/
theorem eraseIds_again_iff (text : List Char) :
    eraseIds (eraseIds text) = eraseIds text ↔ LoneIds EndsDeclared text := by
  induction text using words_induction with
  | nil =>
      refine iff_of_true rfl ?_
      intro front id rest whole known
      obtain ⟨rfl, -⟩ := List.append_eq_nil_iff.1 whole.symm
      exact absurd known EndsDeclared.not_nil
  | plain character rest plain ih =>
      have plain' := (opensDeclared_cons_eraseIds character rest).trans plain
      rw [eraseIds_cons rest plain, eraseIds_cons _ plain', List.cons_inj_right, ih,
        LoneIds.cons_iff EndsDeclared.not_nil]
      apply LoneIds.congr
      intro front initial
      exact (EndsDeclared.cons_iff plain initial).symm
  | word word member rest ih =>
      have untouched : ∀ part, part <+: word → part ≠ word → ¬EndsDeclared part :=
        fun _ initial _ => EndsDeclared.not_part member initial
      simp only [eraseIds_word member, List.append_cancel_left_eq]
      rw [dropIdBehind_eraseIds_again_iff, dropIdBehind_again_iff, ih,
        LoneIds.append_iff untouched]
      simp only [EndsDeclared.word_iff member]
      rw [LoneIds.or_iff, and_comm]

section Accepted

theorem closes_eraseIds (text : List Char) (depth : Nat) :
    closes depth (eraseIds text) = closes depth text := by
  induction text using words_induction generalizing depth with
  | nil => rfl
  | plain character rest plain ih =>
      rw [eraseIds_cons rest plain]
      exact Alike.closes_cons ih character depth
  | word word member rest ih =>
      rw [eraseIds_word member]
      cases depth with
      | zero => rw [closes_word member, closes_word member, closes_dropIdBehind, ih]
      | succ depth =>
          rw [closes_word_behind member, closes_word_behind member, closes_dropIdBehind, ih]

/-- Where every declared type is closed, it still is when ids are erased. -/
theorem firstUnclosed?_eraseIds {text : List Char} (closed : firstUnclosed? text = none) :
    firstUnclosed? (eraseIds text) = none := by
  induction text using words_induction with
  | nil => rfl
  | plain character rest plain ih =>
      rw [firstUnclosed?_cons_eq_none_iff] at closed
      rw [eraseIds_cons rest plain, firstUnclosed?_cons_eq_none_iff, opensDeclared_cons_eraseIds,
        plain]
      exact ⟨fun absurd => Bool.noConfusion absurd, ih closed.2⟩
  | word word member rest ih =>
      rw [firstUnclosed?_word member] at closed
      split at closed
      case isFalse => cases closed
      case isTrue closes =>
        rw [Option.map_eq_none_iff] at closed
        rw [← closes_eraseIds] at closes
        rw [eraseIds_word member, firstUnclosed?_word member, closes_dropIdBehind, if_pos closes,
          firstUnclosed?_dropIdBehind 0 closes, ih closed]
        rfl

/-- A key is accepted again, and kept exactly if no id that was erased had a digit behind it. -/
theorem withoutIds_key {text key : List Char} (accepted : withoutIds text = .ok key) :
    (∃ again, withoutIds key = .ok again) ∧
      (withoutIds key = .ok key ↔ LoneIds EndsDeclared text) := by
  obtain ⟨closed, rfl⟩ := (withoutIds_eq_ok_iff text key).1 accepted
  have closed' := firstUnclosed?_eraseIds closed
  constructor
  · exact ⟨_, (withoutIds_eq_ok_iff _ _).2 ⟨closed', rfl⟩⟩
  · rw [withoutIds_eq_ok_iff, ← eraseIds_again_iff]
    exact and_iff_right closed'

end Accepted

section Decoded

theorem ReadsAs.bare {run text : List Char} (reads : ReadsAs run text) : '$' ∉ text := by
  obtain ⟨underscores, symbols, cut, -, -, rfl⟩ := reads
  intro member
  cases List.mem_append.1 member with
  | inl literal => exact absurd (List.eq_of_mem_replicate literal) (by decide)
  | inr symbol => exact absurd (cut.known '$' symbol) (by decide)

theorem Replaced.bare {identifier text : List Char} (replaced : Replaced identifier text) :
    '$' ∉ text := by
  induction replaced with
  | nil => exact List.not_mem_nil
  | other outside _ ih =>
      intro member
      cases List.mem_cons.1 member with
      | inl same =>
          rw [← same] at outside
          exact absurd outside (by decide)
      | inr later => exact ih later
  | run _ _ _ reads _ ih =>
      intro member
      cases List.mem_append.1 member with
      | inl here => exact reads.bare here
      | inr later => exact ih later

theorem readsAs_underscores (underscores : Nat) :
    ReadsAs (List.replicate underscores '_') (List.replicate underscores '_') := by
  have bare (symbols : List Char) (known : ∀ symbol ∈ symbols, isSymbol symbol = true)
      (absent : '$' ∉ encode symbols) : symbols = [] := by
    cases symbols with
    | nil => rfl
    | cons symbol later =>
        rcases (isSymbol_iff symbol).1 (known symbol List.mem_cons_self) with rfl | rfl | rfl <;>
          simp [escape] at absent
  refine ⟨underscores, [], ⟨by simp, List.append_nil _⟩, ?_, by simp, (List.append_nil _).symm⟩
  intro fewer others cut
  have absent : '$' ∉ encode others := by
    intro member
    have inside : '$' ∈ List.replicate underscores '_' := by
      rw [← cut.code]
      exact List.mem_append_right _ member
    exact absurd (List.eq_of_mem_replicate inside) (by decide)
  have whole := cut.code
  rw [bare others cut.known absent, encode_nil, List.append_nil] at whole
  have lengths := congrArg List.length whole
  rw [List.length_replicate, List.length_replicate] at lengths
  exact lengths.ge

theorem replaced_self {text : List Char} (bare : '$' ∉ text) : Replaced text text := by
  induction text using runs_induction with
  | nil => exact .nil
  | other character rest outside ih =>
      exact .other outside (ih fun member => bare (List.mem_cons_of_mem _ member))
  | run run rest nonempty escapes behind ih =>
      have underscores : run = List.replicate run.length '_' := by
        rw [List.eq_replicate_iff]
        refine ⟨rfl, ?_⟩
        intro character member
        have escape := escapes character member
        have other : character ≠ '$' := fun same => bare (List.mem_append_left _ (same ▸ member))
        simpa [isEscape, other] using escape
      have reads : ReadsAs run run := by
        rw [underscores]
        exact readsAs_underscores run.length
      exact .run nonempty escapes behind reads
        (ih fun member => bare (List.mem_append_right _ member))

theorem decode_key {identifier key : List Char} (accepted : keyOf identifier = .ok key) :
    decode key = .ok key := by
  obtain ⟨text, decoded, erased⟩ := (keyOf_eq_ok_iff identifier key).1 accepted
  obtain ⟨-, rfl⟩ := (withoutIds_eq_ok_iff text key).1 erased
  rw [decode_eq_decodePart, decodePart_eq_ok_iff_replaced] at decoded ⊢
  exact replaced_self fun member => decoded.bare ((eraseIds_sublist text).subset member)

theorem keyOf_key {identifier key : List Char} (accepted : keyOf identifier = .ok key) :
    keyOf key = withoutIds key := by
  rw [keyOf, decode_key accepted]
  rfl

theorem ofIdentifier_eq_ok_iff (identifier key : String) :
    (ofIdentifier identifier).result = .ok key ↔ keyOf identifier.toList = .ok key.toList := by
  rw [ofIdentifier_result, map_eq_ok_iff]
  constructor
  · intro accepted
    obtain ⟨found, given, rfl⟩ := accepted
    rw [given, String.toList_ofList]
  · intro accepted
    exact ⟨key.toList, accepted, String.ofList_toList⟩

end Decoded

/-- What is left when ids are erased is accepted again, and it is kept exactly if no id that was
erased had a digit behind it. This holds of keys as well, whose identifiers are decoded first. -/
theorem erasing_again :
    (∀ text key, withoutIds text = .ok key →
      (∃ again, withoutIds key = .ok again) ∧
        (withoutIds key = .ok key ↔ LoneIds EndsDeclared text)) ∧
    ∀ identifier key, (ofIdentifier identifier).result = .ok key →
      ∃ text, decode identifier.toList = .ok text ∧
        (∃ again, (ofIdentifier key).result = .ok again) ∧
        ((ofIdentifier key).result = .ok key ↔ LoneIds EndsDeclared text) := by
  constructor
  · intro text key accepted
    exact withoutIds_key accepted
  · intro identifier key accepted
    rw [ofIdentifier_eq_ok_iff] at accepted
    obtain ⟨text, decoded, erased⟩ := (keyOf_eq_ok_iff _ _).1 accepted
    obtain ⟨⟨again, accepted'⟩, kept⟩ := withoutIds_key erased
    refine ⟨text, decoded, ⟨String.ofList again, ?_⟩, ?_⟩
    · rw [ofIdentifier_eq_ok_iff, keyOf_key accepted, accepted', String.toList_ofList]
    · rw [ofIdentifier_eq_ok_iff, keyOf_key accepted, kept]

theorem erasing_again_token :
    withoutIds "t_array(t_contract(Token)9)5_storage".toList =
        .ok "t_array(t_contract(Token))5_storage".toList ∧
      (withoutIds "t_array(t_contract(Token))5_storage".toList =
          .ok "t_array(t_contract(Token))5_storage".toList ↔
        LoneIds EndsDeclared "t_array(t_contract(Token)9)5_storage".toList) ∧
      (ofIdentifier "t_struct$_Pool_$12_storage").result = .ok "t_struct(Pool)storage" ∧
      ∃ text, decode "t_struct$_Pool_$12_storage".toList = .ok text ∧
        (∃ again, (ofIdentifier "t_struct(Pool)storage").result = .ok again) ∧
        ((ofIdentifier "t_struct(Pool)storage").result = .ok "t_struct(Pool)storage" ↔
          LoneIds EndsDeclared text) :=
  ⟨rfl, (erasing_again.1 _ _ rfl).2, rfl, erasing_again.2 _ _ rfl⟩

/-- A digit behind an id that is erased is erased the second time. -/
theorem not_erasing_again_digit :
    withoutIds "t_struct(A)1_2".toList = .ok "t_struct(A)2".toList ∧
      withoutIds "t_struct(A)2".toList = .ok "t_struct(A)".toList ∧
      (ofIdentifier "t_struct$_A_$1_2").result = .ok "t_struct(A)2" ∧
      (ofIdentifier "t_struct(A)2").result = .ok "t_struct(A)" :=
  ⟨rfl, rfl, rfl, rfl⟩

end StorageCompat.TypeKey
