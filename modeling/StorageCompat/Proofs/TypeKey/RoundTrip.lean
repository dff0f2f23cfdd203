import StorageCompat.Proofs.TypeKey.Runs
import StorageCompat.Proofs.TypeKey.Segments
import StorageCompat.TypeKey.NodeIds

/-!
Decoding against encoding. An identifier without symbols is decoded to the one text that it
stands for, so decoding undoes the code of exactly the texts in which nothing is misread, and no
two identifiers are decoded to one text. A reader that undoes the code of all texts cannot exist,
because there are texts that share their code.
-/

namespace StorageCompat.TypeKey

/-- Text without symbols, as compilers write identifiers. -/
def Plain (text : List Char) : Prop :=
  ∀ character ∈ text, isSymbol character = false

instance : DecidablePred Plain :=
  fun text => decidable_of_iff (text.any isSymbol = false) (by simp [Plain])

theorem escape_ne_nil (character : Char) : escape character ≠ [] := by
  unfold escape
  split <;> exact List.cons_ne_nil _ _

theorem eq_of_mem_escape {symbol part : Char} (known : isSymbol symbol = true)
    (member : part ∈ escape symbol) : part = '_' ∨ part = '$' := by
  rcases (isSymbol_iff symbol).1 known with rfl | rfl | rfl
  all_goals
    unfold escape at member
    grind

theorem uniform_escape {character : Char} (bare : character ≠ '$') :
    Uniform (isCoded character) (escape character) := by
  intro part member
  cases known : isSymbol character with
  | true =>
      rw [(isCoded_iff character).2 (Or.inr known)]
      rcases eq_of_mem_escape known member with rfl | rfl <;> rfl
  | false =>
      rw [escape_of_not_isSymbol known, List.mem_singleton] at member
      rw [member, isEscape, isCoded, known, decide_eq_false bare]

theorem plain_encode (text : List Char) : Plain (encode text) := by
  intro part member
  obtain ⟨character, -, inside⟩ := List.mem_flatMap.1 member
  cases known : isSymbol character with
  | true => rcases eq_of_mem_escape known inside with rfl | rfl <;> rfl
  | false =>
      rw [escape_of_not_isSymbol known, List.mem_singleton] at inside
      rw [inside, known]

theorem encode_of_plain {text : List Char} (plain : Plain text) : encode text = text := by
  induction text with
  | nil => rfl
  | cons character later ih =>
      obtain ⟨characterPlain, laterPlain⟩ := List.forall_mem_cons.1 plain
      rw [encode_cons, escape_of_not_isSymbol characterPlain, ih laterPlain, List.singleton_append]

theorem isCoded_of_misread {pair : List Char} (member : pair ∈ misread) :
    ∀ character ∈ pair, isCoded character = true := by
  have coded : ∀ pair ∈ misread, pair.all isCoded = true := by decide
  exact List.all_eq_true.1 (coded pair member)

theorem mayFollow_of_isCoded_ne {first second : Char} (different : isCoded first ≠ isCoded second) :
    MayFollow first second := by
  intro member
  have coded := isCoded_of_misread member
  exact different ((coded first (by simp)).trans (coded second (by simp)).symm)

theorem readable_of_plain {text : List Char} (plain : Plain text) : Readable text := by
  intro pair member inside
  have escaped : ∀ pair ∈ misread, pair.any isSymbol = true := by decide
  obtain ⟨symbol, found, known⟩ := List.any_eq_true.1 (escaped pair member)
  rw [plain symbol (inside.subset found)] at known
  cases known

namespace StandsFor

variable {kind : Bool} {identifier text segment rest first later : List Char}

theorem isCoded_eq (stands : StandsFor segment text) (uniform : Uniform kind segment) :
    ∀ character ∈ text, isCoded character = kind := by
  intro character member
  obtain ⟨part, inside⟩ := List.exists_mem_of_ne_nil _ (escape_ne_nil character)
  have bare : character ≠ '$' := fun same => stands.bare (same ▸ member)
  rw [← uniform_escape bare part inside]
  apply uniform
  rw [← stands.code]
  exact List.mem_flatMap.2 ⟨character, member, inside⟩

theorem isCoded_head (stands : StandsFor rest later) (behind : Behind kind rest) :
    ∀ character ∈ later.head?, isCoded character = !kind := by
  intro character member
  obtain ⟨tail, rfl⟩ := List.head?_eq_some_iff.1 member
  have bare : character ≠ '$' := fun same => stands.bare (same ▸ List.mem_cons_self)
  cases code : escape character with
  | nil => exact absurd code (escape_ne_nil character)
  | cons part others =>
      rw [← uniform_escape bare part (code ▸ List.mem_cons_self)]
      apply behind
      rw [← stands.code, encode_cons, code]
      rfl

theorem append (stands : StandsFor segment first) (stands' : StandsFor rest later)
    (uniform : Uniform kind segment) (behind : Behind kind rest) :
    StandsFor (segment ++ rest) (first ++ later) where
  code := by rw [encode_append, stands.code, stands'.code]
  bare := by simp [stands.bare, stands'.bare]
  readable := by
    refine (readable_append_iff _ _).2 ⟨stands.readable, stands'.readable, ?_⟩
    intro character member next member'
    apply mayFollow_of_isCoded_ne
    rw [stands.isCoded_eq uniform character (List.mem_of_mem_getLast? member),
      stands'.isCoded_head behind next member']
    cases kind <;> decide

end StandsFor

theorem exists_append_of_encode_eq {kind : Bool} {text segment rest : List Char}
    (bare : '$' ∉ text) (code : encode text = segment ++ rest) (uniform : Uniform kind segment)
    (behind : Behind kind rest) :
    ∃ first later, text = first ++ later ∧ encode first = segment ∧ encode later = rest := by
  induction text generalizing segment with
  | nil =>
      obtain ⟨rfl, rfl⟩ := List.append_eq_nil_iff.1 code.symm
      exact ⟨[], [], rfl, rfl, rfl⟩
  | cons character text ih =>
      obtain ⟨characterBare, textBare⟩ := not_or.1 (List.mem_cons.not.1 bare)
      cases segment with
      | nil => exact ⟨[], character :: text, rfl, rfl, code⟩
      | cons part others =>
          obtain ⟨middle, cut, code'⟩ | ⟨middle, cut, code'⟩ := List.append_eq_append_iff.1 code
          · have inner : Uniform kind middle := by
              intro part member
              exact uniform part (cut ▸ List.mem_append_right _ member)
            obtain ⟨first, later, rfl, front, back⟩ := ih textBare code' inner
            exact ⟨character :: first, later, rfl, by rw [encode_cons, front, cut], back⟩
          · cases middle with
            | nil =>
                rw [List.append_nil] at cut
                exact ⟨[character], text, rfl, by simp [cut], code'.symm⟩
            | cons next rest' =>
                -- The escape would have characters of both kinds.
                have bare : character ≠ '$' := Ne.symm characterBare
                have here := uniform_escape bare part (cut ▸ by simp)
                have there := uniform_escape bare next (cut ▸ by simp)
                rw [uniform part List.mem_cons_self] at here
                rw [behind next (code' ▸ rfl), ← here] at there
                cases kind <;> cases there

theorem standsFor_append_iff {kind : Bool} {segment rest : List Char}
    (uniform : Uniform kind segment) (behind : Behind kind rest) (text : List Char) :
    StandsFor (segment ++ rest) text ↔
      ∃ first later, StandsFor segment first ∧ StandsFor rest later ∧ first ++ later = text := by
  constructor
  · rintro ⟨code, bare, readable⟩
    obtain ⟨first, later, rfl, front, back⟩ := exists_append_of_encode_eq bare code uniform behind
    obtain ⟨firstReadable, laterReadable, -⟩ := (readable_append_iff _ _).1 readable
    rw [List.mem_append, not_or] at bare
    exact ⟨first, later, ⟨front, bare.1, firstReadable⟩, ⟨back, bare.2, laterReadable⟩, rfl⟩
  · rintro ⟨first, later, stands, stands', rfl⟩
    exact stands.append stands' uniform behind

theorem decodeRun?_eq_some_iff {run : List Char} (escapes : Uniform true run) (text : List Char) :
    decodeRun? run = some text ↔ StandsFor run text := by
  constructor
  · exact standsFor_of_decodeRun?
  · intro stands
    rw [← stands.code]
    exact decodeRun?_encode text (stands.isCoded_eq escapes) stands.readable

theorem standsFor_iff_eq {segment : List Char} (others : Uniform false segment)
    (plain : Plain segment) (text : List Char) : StandsFor segment text ↔ segment = text := by
  constructor
  · intro stands
    have textPlain : Plain text := by
      intro character member
      exact (Bool.or_eq_false_iff.1 (stands.isCoded_eq others character member)).2
    rw [← stands.code, encode_of_plain textPlain]
  · rintro rfl
    refine ⟨encode_of_plain plain, ?_, readable_of_plain plain⟩
    intro member
    cases others '$' member

theorem decodeSegment_eq_ok_iff (identifier : List Char) {kind : Bool} {segment : List Char}
    (nonempty : segment ≠ []) (uniform : Uniform kind segment) (plain : Plain segment)
    (text : List Char) :
    decodeSegment identifier segment = .ok text ↔ StandsFor segment text := by
  cases kind with
  | true =>
      rw [decodeSegment_run identifier nonempty uniform, ← decodeRun?_eq_some_iff uniform]
      cases decodeRun? segment with
      | some found => simp
      | none => simp
  | false =>
      rw [decodeSegment_others identifier uniform, Except.ok.injEq, standsFor_iff_eq uniform plain]

theorem decodePart_eq_ok_iff (identifier part : List Char) (plain : Plain part)
    (text : List Char) :
    decodePart identifier part = .ok text ↔ StandsFor part text := by
  induction part using segments_induction generalizing text with
  | nil =>
      rw [decodePart_nil, Except.ok.injEq]
      exact (standsFor_iff_eq (by simp [Uniform]) plain text).symm
  | append kind segment rest nonempty uniform behind ih =>
      obtain ⟨segmentPlain, restPlain⟩ := List.forall_mem_append.1 plain
      rw [decodePart_append_eq_ok_iff identifier nonempty uniform behind,
        standsFor_append_iff uniform behind]
      simp only [decodeSegment_eq_ok_iff identifier nonempty uniform segmentPlain, ih restPlain]

/-- An identifier without symbols is decoded to the text that it stands for. -/
theorem decode_eq_ok_iff (identifier text : List Char) (plain : Plain identifier) :
    decode identifier = .ok text ↔ StandsFor identifier text := by
  rw [decode_eq_decodePart]
  exact decodePart_eq_ok_iff identifier identifier plain text

theorem decode_encode {text : List Char} (bare : '$' ∉ text) (readable : Readable text) :
    decode (encode text) = .ok text := by
  rw [decode_eq_ok_iff _ _ (plain_encode text)]
  exact ⟨rfl, bare, readable⟩

/-- Decoding undoes the code of exactly the texts in which nothing is misread. -/
theorem decode_encode_eq_ok_iff (text : List Char) (bare : '$' ∉ text) :
    decode (encode text) = .ok text ↔ Readable text := by
  constructor
  · intro decoded
    exact ((decode_eq_ok_iff _ _ (plain_encode text)).1 decoded).readable
  · exact decode_encode bare

theorem decode_encode_comma_opening :
    '$' ∉ "f(a,(b_))".toList ∧ decode (encode "f(a,(b_))".toList) = .ok "f(a,(b_))".toList :=
  ⟨by decide, (decode_encode_eq_ok_iff _ (by decide)).2 (by decide)⟩

/-- Encoding undoes decoding, and what is decoded can be read back; so no two identifiers are
decoded to one text. -/
theorem encode_of_decode (identifier text : List Char) (plain : Plain identifier)
    (decoded : decode identifier = .ok text) :
    encode text = identifier ∧ '$' ∉ text ∧ Readable text ∧
      ∀ other, Plain other → decode other = .ok text → other = identifier := by
  obtain ⟨code, bare, readable⟩ := (decode_eq_ok_iff identifier text plain).1 decoded
  refine ⟨code, bare, readable, ?_⟩
  intro other otherPlain otherDecoded
  rw [← code, ((decode_eq_ok_iff other text otherPlain).1 otherDecoded).code]

theorem encode_of_decode_comma_opening :
    Plain "f$_a_$_$_b__$_$".toList ∧
      decode "f$_a_$_$_b__$_$".toList = .ok "f(a,(b_))".toList ∧
      encode "f(a,(b_))".toList = "f$_a_$_$_b__$_$".toList ∧
      '$' ∉ "f(a,(b_))".toList ∧ Readable "f(a,(b_))".toList ∧
      ∀ other, Plain other → decode other = .ok "f(a,(b_))".toList →
        other = "f$_a_$_$_b__$_$".toList :=
  ⟨by decide, rfl, encode_of_decode _ _ (by decide) rfl⟩

def declaredType (kind name : List Char) : List Char :=
  kind ++ name ++ [')']

theorem readable_declaredType {kind name : List Char} (member : kind ∈ declaredKinds)
    (plain : Plain name) (other : name.head? ≠ some '_') :
    Readable (declaredType kind name) := by
  have kinds : ∀ kind ∈ declaredKinds, Readable kind ∧ kind.getLast? = some '(' := by decide
  obtain ⟨kindReadable, opening⟩ := kinds kind member
  have front : Readable (kind ++ name) := by
    refine (readable_append_iff _ _).2 ⟨kindReadable, readable_of_plain plain, ?_⟩
    intro last found next first
    cases opening.symm.trans found
    apply mayFollow_opening
    rintro rfl
    exact other first
  refine (readable_append_iff _ _).2 ⟨front, by decide, ?_⟩
  intro last _ next first
  cases first
  exact mayFollow_closing last

/-- A text in which nothing is misread is decoded from its code, for instance a declared type whose
name does not start with an underscore. -/
theorem decode_encode_of_readable :
    (∀ text, '$' ∉ text → Readable text → decode (encode text) = .ok text) ∧
      ∀ kind ∈ declaredKinds, ∀ name, '$' ∉ name → Plain name → name.head? ≠ some '_' →
        decode (encode (declaredType kind name)) = .ok (declaredType kind name) := by
  refine ⟨fun text => decode_encode, ?_⟩
  intro kind member name bare plain other
  have kinds : ∀ kind ∈ declaredKinds, '$' ∉ kind := by decide
  refine decode_encode ?_ (readable_declaredType member plain other)
  simp [declaredType, kinds kind member, bare]

theorem decode_encode_struct_pool :
    '$' ∉ "t_array(t_struct(Pool_)12_storage)".toList ∧
      Readable "t_array(t_struct(Pool_)12_storage)".toList ∧
      decode (encode "t_array(t_struct(Pool_)12_storage)".toList) =
        .ok "t_array(t_struct(Pool_)12_storage)".toList ∧
      "t_struct(".toList ∈ declaredKinds ∧ '$' ∉ "My_Pool2".toList ∧
      Plain "My_Pool2".toList ∧ "My_Pool2".toList.head? ≠ some '_' ∧
      decode (encode (declaredType "t_struct(".toList "My_Pool2".toList)) =
        .ok (declaredType "t_struct(".toList "My_Pool2".toList) :=
  ⟨by decide, by decide, decode_encode_of_readable.1 _ (by decide) (by decide), by decide,
    by decide, by decide, by decide,
    decode_encode_of_readable.2 _ (by decide) _ (by decide) (by decide) (by decide)⟩

/-- The texts `(,` and `(_(` have one code, so no reader can tell them apart. -/
theorem encode_opening_comma : encode "(,".toList = encode "(_(".toList := rfl

/-- Not every text without a comma behind a closing parenthesis is decoded from its code. -/
theorem decode_encode_literal_underscore :
    ¬∀ text, '$' ∉ text → ¬"),".toList <:+: text → decode (encode text) = .ok text := by
  intro claim
  have comma := claim "(,".toList (by decide) (by decide)
  have underscore := claim "(_(".toList (by decide) (by decide)
  rw [← encode_opening_comma, comma] at underscore
  cases underscore

end StorageCompat.TypeKey
