import StorageCompat.Proofs.TypeKey.Runs
import StorageCompat.Proofs.TypeKey.Segments

/-!
The grammar of identifiers. An identifier is decoded exactly if each of its maximal runs of escape
characters is made of literal underscores and of escapes behind them; otherwise the leftmost run
that is not is refused. A run that can be cut in several ways has as few literal underscores as
possible, and behind them no comma follows a closing parenthesis.
-/

namespace StorageCompat.TypeKey

/-- The run is so many literal underscores and the escapes of the symbols behind them. -/
structure IsCut (run : List Char) (underscores : Nat) (symbols : List Char) : Prop where
  known : ∀ symbol ∈ symbols, isSymbol symbol = true
  code : List.replicate underscores '_' ++ encode symbols = run

def InGrammar (run : List Char) : Prop :=
  ∃ underscores symbols, IsCut run underscores symbols

/-- What a run stands for: its fewest literal underscores, and behind them the symbols that bring
no comma behind a closing parenthesis. -/
def ReadsAs (run text : List Char) : Prop :=
  ∃ underscores symbols, IsCut run underscores symbols ∧
    (∀ fewer others, IsCut run fewer others → underscores ≤ fewer) ∧
    ¬"),".toList <:+: symbols ∧ text = List.replicate underscores '_' ++ symbols

theorem isCut_zero_iff (run symbols : List Char) :
    IsCut run 0 symbols ↔ (∀ symbol ∈ symbols, isSymbol symbol = true) ∧ encode symbols = run :=
  ⟨fun cut => ⟨cut.known, cut.code⟩, fun parts => ⟨parts.1, parts.2⟩⟩

theorem isCut_succ_iff (run symbols : List Char) (underscores : Nat) :
    IsCut run (underscores + 1) symbols ↔
      ∃ rest, run = '_' :: rest ∧ IsCut rest underscores symbols := by
  constructor
  · rintro ⟨known, rfl⟩
    exact ⟨_, rfl, known, rfl⟩
  · rintro ⟨rest, rfl, known, rfl⟩
    exact ⟨known, rfl⟩

theorem exists_symbols?_encode (symbols : List Char)
    (known : ∀ symbol ∈ symbols, isSymbol symbol = true) :
    ∃ read, symbols? (encode symbols) = some read := by
  induction symbols with
  | nil => exact ⟨[], rfl⟩
  | cons symbol later ih =>
      obtain ⟨symbolKnown, laterKnown⟩ := List.forall_mem_cons.1 known
      obtain ⟨read, found⟩ := ih laterKnown
      obtain rfl | rfl | rfl := (isSymbol_iff symbol).1 symbolKnown
      · refine ⟨'(' :: read, ?_⟩
        change symbols? ('$' :: '_' :: encode later) = _
        rw [symbols?_opening, found, Option.map_some]
      · change ∃ read, symbols? ('_' :: '$' :: encode later) = some read
        by_cases underscore : (encode later).head? = some '_'
        · obtain ⟨tail, same⟩ := List.head?_eq_some_iff.1 underscore
          rw [same] at found ⊢
          rw [symbols?_comma, found]
          cases symbols? tail with
          | none => exact ⟨_, rfl⟩
          | some others => exact ⟨_, rfl⟩
        · exact ⟨')' :: read, by rw [symbols?_closing _ underscore, found, Option.map_some]⟩
      · refine ⟨',' :: read, ?_⟩
        change symbols? ('_' :: '$' :: '_' :: encode later) = _
        rw [symbols?_comma, found]

theorem readable_symbols_iff {symbols : List Char}
    (known : ∀ symbol ∈ symbols, isSymbol symbol = true) :
    Readable symbols ↔ ¬"),".toList <:+: symbols := by
  have pairs : ∀ pair ∈ misread, pair = "),".toList ∨ '_' ∈ pair := by decide
  constructor
  · intro readable
    exact readable _ (by decide)
  · intro apart pair member inside
    obtain rfl | underscore := pairs pair member
    · exact apart inside
    · exact absurd (known '_' (inside.subset underscore)) (by decide)

theorem symbols?_eq_none_iff (run : List Char) :
    symbols? run = none ↔ ∀ symbols, ¬IsCut run 0 symbols := by
  constructor
  · intro unread symbols cut
    obtain ⟨read, found⟩ := exists_symbols?_encode symbols cut.known
    rw [((isCut_zero_iff run symbols).1 cut).2, unread] at found
    cases found
  · intro uncut
    rw [Option.eq_none_iff_forall_ne_some]
    intro symbols read
    obtain ⟨code, known, -⟩ := (symbols?_eq_some_iff run symbols).1 read
    exact uncut symbols ((isCut_zero_iff run symbols).2 ⟨known, code⟩)

namespace ReadsAs

variable {run rest text other : List Char}

theorem of_symbols {symbols : List Char} (read : symbols? run = some symbols) :
    ReadsAs run symbols := by
  obtain ⟨code, known, readable⟩ := (symbols?_eq_some_iff run symbols).1 read
  exact ⟨0, symbols, (isCut_zero_iff run symbols).2 ⟨known, code⟩, fun _ _ _ => Nat.zero_le _,
    (readable_symbols_iff known).1 readable, rfl⟩

/-- An underscore is literal if the run that it starts is not made of escapes. -/
theorem underscore (unread : symbols? ('_' :: rest) = none) (reads : ReadsAs rest text) :
    ReadsAs ('_' :: rest) ('_' :: text) := by
  obtain ⟨underscores, symbols, cut, least, apart, rfl⟩ := reads
  refine ⟨underscores + 1, symbols, (isCut_succ_iff _ _ _).2 ⟨rest, rfl, cut⟩, ?_, apart, rfl⟩
  intro fewer others cut'
  cases fewer with
  | zero => exact absurd cut' ((symbols?_eq_none_iff _).1 unread others)
  | succ fewer =>
      obtain ⟨_, same, cut'⟩ := (isCut_succ_iff _ _ _).1 cut'
      cases same
      exact Nat.succ_le_succ (least fewer others cut')

theorem inGrammar (reads : ReadsAs run text) : InGrammar run := by
  obtain ⟨underscores, symbols, cut, -⟩ := reads
  exact ⟨underscores, symbols, cut⟩

/-- A run stands for underscores and symbols, and for at least one of them. -/
theorem exists_isCoded (reads : ReadsAs run text) (nonempty : run ≠ []) :
    ∃ character later, text = character :: later ∧ isCoded character = true := by
  obtain ⟨underscores, symbols, cut, -, -, rfl⟩ := reads
  cases underscores with
  | succ underscores => exact ⟨'_', _, rfl, rfl⟩
  | zero =>
      cases symbols with
      | nil => exact absurd cut.code.symm nonempty
      | cons symbol later =>
          have known := cut.known symbol List.mem_cons_self
          exact ⟨symbol, later, rfl, (isCoded_iff symbol).2 (Or.inr known)⟩

theorem unique (reads : ReadsAs run text) (reads' : ReadsAs run other) : text = other := by
  obtain ⟨underscores, symbols, cut, least, apart, rfl⟩ := reads
  obtain ⟨underscores', symbols', cut', least', apart', rfl⟩ := reads'
  obtain rfl := Nat.le_antisymm (least _ _ cut') (least' _ _ cut)
  have codes : encode symbols = encode symbols' :=
    List.append_cancel_left (cut.code.trans cut'.code.symm)
  have read := symbols?_encode symbols cut.known ((readable_symbols_iff cut.known).2 apart)
  have read' := symbols?_encode symbols' cut'.known ((readable_symbols_iff cut'.known).2 apart')
  rw [codes, read', Option.some.injEq] at read
  rw [read]

end ReadsAs

theorem readsAs_of_decodeRun? {run text : List Char} (read : decodeRun? run = some text) :
    ReadsAs run text := by
  induction run generalizing text with
  | nil => exact .of_symbols read
  | cons character rest ih =>
      rw [decodeRun?_cons] at read
      cases found : symbols? (character :: rest) with
      | some symbols =>
          rw [found] at read
          cases read
          exact .of_symbols found
      | none =>
          simp only [found] at read
          split at read
          case isFalse => cases read
          case isTrue literal =>
            subst literal
            obtain ⟨later, readLater, rfl⟩ := Option.map_eq_some_iff.1 read
            exact .underscore found (ih readLater)

theorem exists_decodeRun?_of_isCut {run symbols : List Char} {underscores : Nat}
    (cut : IsCut run underscores symbols) : ∃ text, decodeRun? run = some text := by
  induction underscores generalizing run with
  | zero =>
      cases found : symbols? run with
      | none => exact absurd cut ((symbols?_eq_none_iff run).1 found symbols)
      | some read => exact ⟨read, decodeRun?_of_symbols? found⟩
  | succ underscores ih =>
      obtain ⟨rest, rfl, restCut⟩ := (isCut_succ_iff _ _ _).1 cut
      obtain ⟨text, read⟩ := ih restCut
      rw [decodeRun?_cons, read]
      cases symbols? ('_' :: rest) with
      | none => exact ⟨_, rfl⟩
      | some symbols => exact ⟨_, rfl⟩

theorem decodeRun?_eq_some_iff_readsAs (run text : List Char) :
    decodeRun? run = some text ↔ ReadsAs run text := by
  constructor
  · exact readsAs_of_decodeRun?
  · intro reads
    obtain ⟨_, _, cut⟩ := reads.inGrammar
    obtain ⟨read, found⟩ := exists_decodeRun?_of_isCut cut
    rw [found, (readsAs_of_decodeRun? found).unique reads]

theorem exists_decodeRun?_iff {run : List Char} :
    (∃ text, decodeRun? run = some text) ↔ InGrammar run := by
  constructor
  · rintro ⟨text, read⟩
    exact (readsAs_of_decodeRun? read).inGrammar
  · rintro ⟨_, _, cut⟩
    exact exists_decodeRun?_of_isCut cut

theorem decodeRun?_eq_none_iff (run : List Char) : decodeRun? run = none ↔ ¬InGrammar run := by
  rw [← exists_decodeRun?_iff, not_exists, Option.eq_none_iff_forall_ne_some]

structure RunAt (identifier before run behind : List Char) : Prop where
  parts : identifier = before ++ (run ++ behind)
  nonempty : run ≠ []
  escapes : Uniform true run
  left : ∀ character ∈ before.getLast?, isEscape character = false
  right : Behind true behind

def AllInGrammar (identifier : List Char) : Prop :=
  ∀ before run behind, RunAt identifier before run behind → InGrammar run

structure FirstRefused (identifier before run behind : List Char) : Prop
    extends RunAt identifier before run behind where
  refused : ¬InGrammar run
  first : ∀ before' run' behind', RunAt identifier before' run' behind' →
    before'.length < before.length → InGrammar run'

/-- Each maximal run is replaced by what it stands for, and other characters stay. -/
inductive Replaced : List Char → List Char → Prop where
  | nil : Replaced [] []
  | other {character : Char} {rest text : List Char} (outside : isEscape character = false)
      (replaced : Replaced rest text) : Replaced (character :: rest) (character :: text)
  | run {run rest text later : List Char} (nonempty : run ≠ []) (escapes : Uniform true run)
      (behind : Behind true rest) (reads : ReadsAs run text) (replaced : Replaced rest later) :
      Replaced (run ++ rest) (text ++ later)

/-- A maximal run is all that the escape characters at the front come to. -/
theorem takeWhile_isEscape {run rest : List Char} (escapes : Uniform true run)
    (behind : Behind true rest) : (run ++ rest).takeWhile isEscape = run := by
  rw [List.takeWhile_append_of_pos escapes]
  cases rest with
  | nil => exact List.append_nil run
  | cons character rest =>
      have outside : ¬isEscape character = true := by simp [behind character rfl]
      rw [List.takeWhile_cons_of_neg outside, List.append_nil]

namespace RunAt

variable {identifier before before' run run' behind behind' rest : List Char}

theorem unique (found : RunAt identifier before run behind)
    (found' : RunAt identifier before' run' behind') (same : before.length = before'.length) :
    before = before' ∧ run = run' ∧ behind = behind' := by
  obtain ⟨rfl, later⟩ := List.append_inj (found.parts.symm.trans found'.parts) same
  have runs := congrArg (List.takeWhile isEscape) later
  rw [takeWhile_isEscape found.escapes found.right,
    takeWhile_isEscape found'.escapes found'.right] at runs
  subst runs
  exact ⟨rfl, rfl, List.append_cancel_left later⟩

theorem not_nil : ¬RunAt [] before run behind := by
  intro found
  obtain ⟨-, inner⟩ := List.append_eq_nil_iff.1 found.parts.symm
  exact found.nonempty (List.append_eq_nil_iff.1 inner).1

theorem exists_head (found : RunAt identifier [] run behind) :
    ∃ character ∈ identifier.head?, isEscape character = true := by
  obtain ⟨character, later, rfl⟩ := List.exists_cons_of_ne_nil found.nonempty
  rw [found.parts]
  exact ⟨character, rfl, found.escapes character List.mem_cons_self⟩

theorem cons_iff {character : Char} (outside : isEscape character = false) :
    RunAt (character :: rest) before run behind ↔
      ∃ front, before = character :: front ∧ RunAt rest front run behind := by
  constructor
  · intro found
    cases before with
    | nil =>
        obtain ⟨_, ⟨⟩, escape⟩ := found.exists_head
        rw [outside] at escape
        cases escape
    | cons first front =>
        obtain ⟨rfl, parts⟩ := List.cons.inj found.parts
        refine ⟨front, rfl, parts, found.nonempty, found.escapes, ?_, found.right⟩
        intro last member
        exact found.left last (List.mem_getLast?_cons member)
  · rintro ⟨front, rfl, found⟩
    refine ⟨congrArg _ found.parts, found.nonempty, found.escapes, ?_, found.right⟩
    intro last member
    cases front with
    | nil =>
        cases member
        exact outside
    | cons first front => exact found.left last (by simpa using member)

theorem append_iff (nonempty : run ≠ []) (escapes : Uniform true run)
    (behind : Behind true rest) {later : List Char} :
    RunAt (run ++ rest) before run' later ↔
      (before = [] ∧ run' = run ∧ later = rest) ∨
        ∃ front, before = run ++ front ∧ RunAt rest front run' later := by
  have whole : RunAt (run ++ rest) [] run rest := ⟨rfl, nonempty, escapes, by simp, behind⟩
  constructor
  · intro found
    obtain ⟨front, same, inner⟩ | ⟨others, same, -⟩ := List.append_eq_append_iff.1 found.parts
    · subst same
      right
      refine ⟨front, rfl, inner, found.nonempty, found.escapes, ?_, found.right⟩
      intro last member
      exact found.left last (List.mem_getLast?_append_of_mem_getLast? member)
    · cases before with
      | nil =>
          obtain ⟨-, rfl, rfl⟩ := found.unique whole rfl
          exact Or.inl ⟨rfl, rfl, rfl⟩
      | cons first front =>
          -- The run would reach over what stands in front of a maximal run.
          have nonempty := List.cons_ne_nil first front
          have last := List.mem_append_left others (List.getLast_mem nonempty)
          have outside := found.left _ (List.getLast?_eq_getLast_of_ne_nil nonempty)
          rw [escapes _ (same ▸ last)] at outside
          cases outside
  · rintro (⟨rfl, rfl, rfl⟩ | ⟨front, rfl, found⟩)
    · exact whole
    · refine ⟨?_, found.nonempty, found.escapes, ?_, found.right⟩
      · rw [found.parts, List.append_assoc]
      · cases front with
        | nil =>
            obtain ⟨character, member, escape⟩ := found.exists_head
            rw [behind character member] at escape
            cases escape
        | cons first others =>
            rw [List.getLast?_append_of_ne_nil _ (List.cons_ne_nil first others)]
            exact found.left

end RunAt

theorem decodePart_of_replaced (identifier : List Char) {part text : List Char}
    (replaced : Replaced part text) : decodePart identifier part = .ok text := by
  induction replaced with
  | nil => rfl
  | other outside _ ih =>
      rw [decodePart_other identifier _ outside, ih]
      rfl
  | run nonempty escapes behind reads _ ih =>
      rw [decodePart_run identifier nonempty escapes behind, ih,
        (decodeRun?_eq_some_iff_readsAs _ _).2 reads]
      rfl

namespace FirstRefused

variable {rest before run run' behind later : List Char}

theorem cons {character : Char} (outside : isEscape character = false)
    (found : FirstRefused rest before run behind) :
    FirstRefused (character :: rest) (character :: before) run behind where
  toRunAt := (RunAt.cons_iff outside).2 ⟨before, rfl, found.toRunAt⟩
  refused := found.refused
  first := by
    intro before' run' behind' found' earlier
    obtain ⟨front, rfl, inner⟩ := (RunAt.cons_iff outside).1 found'
    exact found.first front run' behind' inner (Nat.lt_of_succ_lt_succ earlier)

theorem front (nonempty : run ≠ []) (escapes : Uniform true run) (behind : Behind true rest)
    (refused : ¬InGrammar run) : FirstRefused (run ++ rest) [] run rest where
  toRunAt := (RunAt.append_iff nonempty escapes behind).2 (Or.inl ⟨rfl, rfl, rfl⟩)
  refused := refused
  first := fun _ _ _ _ earlier => absurd earlier (Nat.not_lt_zero _)

theorem append (nonempty : run ≠ []) (escapes : Uniform true run) (apart : Behind true rest)
    (inside : InGrammar run) (found : FirstRefused rest before run' behind) :
    FirstRefused (run ++ rest) (run ++ before) run' behind where
  toRunAt := (RunAt.append_iff nonempty escapes apart).2 (Or.inr ⟨before, rfl, found.toRunAt⟩)
  refused := found.refused
  first := by
    intro before' run'' behind' found' earlier
    obtain ⟨-, rfl, -⟩ | ⟨front, rfl, inner⟩ :=
      (RunAt.append_iff nonempty escapes apart).1 found'
    · exact inside
    · rw [List.length_append, List.length_append] at earlier
      exact found.first front run'' behind' inner (Nat.lt_of_add_lt_add_left earlier)

theorem unique {identifier before' behind' : List Char}
    (found : FirstRefused identifier before run behind)
    (found' : FirstRefused identifier before' run' behind') : run = run' := by
  obtain earlier | same | later := Nat.lt_trichotomy before.length before'.length
  · exact absurd (found'.first _ _ _ found.toRunAt earlier) found.refused
  · exact (found.toRunAt.unique found'.toRunAt same).2.1
  · exact absurd (found.first _ _ _ found'.toRunAt later) found'.refused

end FirstRefused

namespace AllInGrammar

variable {rest run : List Char}

theorem nil : AllInGrammar [] :=
  fun _ _ _ found => absurd found RunAt.not_nil

theorem cons_iff {character : Char} (outside : isEscape character = false) :
    AllInGrammar (character :: rest) ↔ AllInGrammar rest := by
  constructor
  · intro all front run behind found
    exact all _ run behind ((RunAt.cons_iff outside).2 ⟨front, rfl, found⟩)
  · intro all before run behind found
    obtain ⟨front, -, inner⟩ := (RunAt.cons_iff outside).1 found
    exact all front run behind inner

theorem append_iff (nonempty : run ≠ []) (escapes : Uniform true run) (apart : Behind true rest) :
    AllInGrammar (run ++ rest) ↔ InGrammar run ∧ AllInGrammar rest := by
  constructor
  · intro all
    refine ⟨all [] run rest ((RunAt.append_iff nonempty escapes apart).2 ?_), ?_⟩
    · exact Or.inl ⟨rfl, rfl, rfl⟩
    · intro front run' behind found
      exact all _ run' behind
        ((RunAt.append_iff nonempty escapes apart).2 (Or.inr ⟨front, rfl, found⟩))
  · rintro ⟨inside, all⟩ before run' behind found
    obtain ⟨-, rfl, -⟩ | ⟨front, -, inner⟩ := (RunAt.append_iff nonempty escapes apart).1 found
    · exact inside
    · exact all front run' behind inner

end AllInGrammar

theorem exists_replaced_iff (part : List Char) :
    (∃ text, Replaced part text) ↔ AllInGrammar part := by
  constructor
  · rintro ⟨text, replaced⟩
    induction replaced with
    | nil => exact .nil
    | other outside _ ih => exact (AllInGrammar.cons_iff outside).2 ih
    | run nonempty escapes behind reads _ ih =>
        exact (AllInGrammar.append_iff nonempty escapes behind).2 ⟨reads.inGrammar, ih⟩
  · intro all
    induction part using runs_induction with
    | nil => exact ⟨[], .nil⟩
    | other character rest outside ih =>
        obtain ⟨text, replaced⟩ := ih ((AllInGrammar.cons_iff outside).1 all)
        exact ⟨character :: text, .other outside replaced⟩
    | run run rest nonempty escapes behind ih =>
        obtain ⟨inside, others⟩ := (AllInGrammar.append_iff nonempty escapes behind).1 all
        obtain ⟨text, read⟩ := exists_decodeRun?_iff.2 inside
        obtain ⟨later, replaced⟩ := ih others
        exact ⟨text ++ later, .run nonempty escapes behind (readsAs_of_decodeRun? read) replaced⟩

theorem exists_firstRefused (identifier part : List Char) (outside : ¬AllInGrammar part) :
    ∃ before run behind, FirstRefused part before run behind ∧
      decodePart identifier part =
        .error (.undecodable (String.ofList run) (String.ofList identifier)) := by
  induction part using runs_induction with
  | nil => exact absurd .nil outside
  | other character rest apart ih =>
      rw [AllInGrammar.cons_iff apart] at outside
      obtain ⟨before, run, behind, found, refused⟩ := ih outside
      refine ⟨character :: before, run, behind, found.cons apart, ?_⟩
      rw [decodePart_other identifier rest apart, refused]
      rfl
  | run run rest nonempty escapes apart ih =>
      rw [AllInGrammar.append_iff nonempty escapes apart] at outside
      by_cases inside : InGrammar run
      · obtain ⟨text, read⟩ := exists_decodeRun?_iff.2 inside
        obtain ⟨before, run', behind, found, refused⟩ := ih fun all => outside ⟨inside, all⟩
        refine ⟨run ++ before, run', behind, found.append nonempty escapes apart inside, ?_⟩
        rw [decodePart_run identifier nonempty escapes apart, read, refused]
        rfl
      · refine ⟨[], run, rest, .front nonempty escapes apart inside, ?_⟩
        rw [decodePart_run identifier nonempty escapes apart, (decodeRun?_eq_none_iff run).2 inside]

theorem decodePart_eq_ok_iff_replaced (identifier part text : List Char) :
    decodePart identifier part = .ok text ↔ Replaced part text := by
  constructor
  · intro decoded
    by_cases all : AllInGrammar part
    · obtain ⟨other, replaced⟩ := (exists_replaced_iff part).2 all
      rw [decodePart_of_replaced identifier replaced, Except.ok.injEq] at decoded
      exact decoded ▸ replaced
    · obtain ⟨_, _, _, -, refused⟩ := exists_firstRefused identifier part all
      rw [refused] at decoded
      cases decoded
  · exact decodePart_of_replaced identifier

/-- An identifier is decoded exactly if each of its maximal runs is made of literal underscores and
escapes. Then each run is replaced by what it stands for, and other characters stay; otherwise the
refusal quotes the leftmost run that is not of this form, and the identifier. -/
theorem decode_grammar (identifier : List Char) :
    ((∃ text, decode identifier = .ok text) ↔ AllInGrammar identifier) ∧
      (∀ text, decode identifier = .ok text ↔ Replaced identifier text) ∧
      ∀ fault, decode identifier = .error fault ↔
        ∃ before run behind, FirstRefused identifier before run behind ∧
          fault = .undecodable (String.ofList run) (String.ofList identifier) ∧
          fault.message = "无法解码的转义序列 " ++ Text.quoted (String.ofList run) ++ " (位于 " ++
            Text.quoted (String.ofList identifier) ++ ")" := by
  simp only [decode_eq_decodePart, decodePart_eq_ok_iff_replaced, exists_replaced_iff, true_and,
    implies_true]
  intro fault
  constructor
  · intro refused
    have outside : ¬AllInGrammar identifier := by
      intro all
      obtain ⟨text, replaced⟩ := (exists_replaced_iff identifier).2 all
      rw [decodePart_of_replaced identifier replaced] at refused
      cases refused
    obtain ⟨before, run, behind, found, given⟩ := exists_firstRefused identifier identifier outside
    rw [given, Except.error.injEq] at refused
    exact ⟨before, run, behind, found, refused.symm, refused ▸ rfl⟩
  · rintro ⟨before, run, behind, found, rfl, -⟩
    have outside : ¬AllInGrammar identifier :=
      fun all => found.refused (all before run behind found.toRunAt)
    obtain ⟨_, run', _, found', given⟩ := exists_firstRefused identifier identifier outside
    rw [given, found'.unique found]

end StorageCompat.TypeKey
