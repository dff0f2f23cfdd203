import Mathlib.Data.List.Chain
import Mathlib.Data.List.Infix
import StorageCompat.TypeKey.Escape

/-!
What runs of escape characters are read as. A text has one code, but a run can be the code of many
texts: it can be cut into escapes in more than one way, and its underscores may be literal. Of
these texts the reader finds the one in which none of five pairs of characters stands side by side.
-/

namespace StorageCompat.TypeKey

/-- Pairs of characters that are read as something else when their codes stand side by side. -/
def misread : List (List Char) :=
  ["(_".toList, ")_".toList, ",_".toList, "_(".toList, "),".toList]

def Readable (text : List Char) : Prop :=
  ∀ pair ∈ misread, ¬pair <:+: text

instance : DecidablePred Readable :=
  fun text => inferInstanceAs (Decidable (∀ pair ∈ misread, ¬pair <:+: text))

def MayFollow (first second : Char) : Prop :=
  [first, second] ∉ misread

instance (first second : Char) : Decidable (MayFollow first second) :=
  inferInstanceAs (Decidable ([first, second] ∉ misread))

theorem readable_iff_isChain (text : List Char) : Readable text ↔ text.IsChain MayFollow := by
  rw [List.isChain_iff_forall_rel_of_append_cons_cons]
  constructor
  · rintro readable first second before behind rfl member
    exact readable _ member ⟨before, behind, by simp⟩
  · rintro follows pair member ⟨before, behind, rfl⟩
    have two : ∀ pair ∈ misread, pair.length = 2 := by decide
    obtain ⟨first, second, rfl⟩ := List.length_eq_two.1 (two pair member)
    exact follows (List.append_assoc before [first, second] behind) member

theorem mayFollow_opening {next : Char} (other : next ≠ '_') : MayFollow '(' next := by
  have only : ∀ pair ∈ misread, pair.head? = some '(' → pair.getLast? = some '_' := by decide
  intro member
  exact other (Option.some.inj (only _ member rfl))

theorem mayFollow_underscore {next : Char} (other : next ≠ '(') : MayFollow '_' next := by
  have only : ∀ pair ∈ misread, pair.head? = some '_' → pair.getLast? = some '(' := by decide
  intro member
  exact other (Option.some.inj (only _ member rfl))

theorem mayFollow_closing (last : Char) : MayFollow last ')' := by
  have never : ∀ pair ∈ misread, pair.getLast? ≠ some ')' := by decide
  intro member
  exact never _ member rfl

theorem readable_nil : Readable [] := by decide

theorem readable_cons_iff (character : Char) (text : List Char) :
    Readable (character :: text) ↔
      (∀ next ∈ text.head?, MayFollow character next) ∧ Readable text := by
  simp only [readable_iff_isChain, List.isChain_cons]

theorem readable_append_iff (first later : List Char) :
    Readable (first ++ later) ↔ Readable first ∧ Readable later ∧
      ∀ character ∈ first.getLast?, ∀ next ∈ later.head?, MayFollow character next := by
  simp only [readable_iff_isChain, List.isChain_append]

def isSymbol (character : Char) : Bool :=
  character = '(' || character = ')' || character = ','

theorem isSymbol_iff (character : Char) :
    isSymbol character = true ↔ character = '(' ∨ character = ')' ∨ character = ',' := by
  simp [isSymbol, or_assoc]

theorem escape_of_not_isSymbol {character : Char} (plain : isSymbol character = false) :
    escape character = [character] := by
  unfold escape
  split <;> first | rfl | exact absurd plain (by decide)

theorem mayFollow_symbols {first second : Char} (known : isSymbol first = true)
    (next : isSymbol second = true) (apart : ¬(first = ')' ∧ second = ',')) :
    MayFollow first second := by
  rw [isSymbol_iff] at known next
  rcases known with rfl | rfl | rfl <;> rcases next with rfl | rfl | rfl <;>
    first | decide | exact absurd ⟨rfl, rfl⟩ apart

/-- A run that is made of escapes is empty or starts with the escape of its first symbol. That
symbol is a closing parenthesis only where a comma would leave something else than escapes. -/
theorem symbols?_eq_some_cases {run symbols : List Char} (read : symbols? run = some symbols) :
    (run = [] ∧ symbols = []) ∨
      ∃ symbol rest later, isSymbol symbol = true ∧ run = escape symbol ++ rest ∧
        symbols? rest = some later ∧ symbols = symbol :: later ∧
        (symbol = ')' → ∀ tail, rest = '_' :: tail → symbols? tail = none) := by
  match run with
  | [] => exact Or.inl ⟨rfl, (Option.some.inj read).symm⟩
  | character :: rest =>
      right
      change RunReading.symbolsOf (character :: rest) (readRun rest) = some symbols at read
      unfold RunReading.symbolsOf at read
      split at read
      case h_1 tail same =>
        obtain ⟨rfl, rfl⟩ := List.cons.inj same
        change symbols? ('_' :: '$' :: '_' :: tail) = some symbols at read
        rw [symbols?_comma] at read
        cases found : symbols? tail with
        | some later =>
            rw [found] at read
            refine ⟨',', tail, later, rfl, rfl, found, (Option.some.inj read).symm, ?_⟩
            exact fun closing => absurd closing (by decide)
        | none =>
            rw [found] at read
            obtain ⟨later, found', rfl⟩ := Option.map_eq_some_iff.1 read
            refine ⟨')', '_' :: tail, later, rfl, rfl, found', rfl, ?_⟩
            rintro _ other same
            rw [← (List.cons.inj same).2]
            exact found
      case h_2 tail same =>
        obtain ⟨rfl, rfl⟩ := List.cons.inj same
        obtain ⟨later, found, rfl⟩ := Option.map_eq_some_iff.1 read
        exact ⟨'(', tail, later, rfl, rfl, found, rfl, fun closing => absurd closing (by decide)⟩
      case h_3 tail other same =>
        obtain ⟨rfl, rfl⟩ := List.cons.inj same
        obtain ⟨later, found, rfl⟩ := Option.map_eq_some_iff.1 read
        refine ⟨')', tail, later, rfl, rfl, found, rfl, ?_⟩
        rintro _ behind rfl
        exact absurd rfl (other behind)
      case h_4 => cases read

theorem encode_of_symbols? {run symbols : List Char} (read : symbols? run = some symbols) :
    encode symbols = run ∧ (∀ symbol ∈ symbols, isSymbol symbol = true) ∧ Readable symbols := by
  induction symbols generalizing run with
  | nil =>
      obtain ⟨rfl, -⟩ | ⟨_, _, _, -, -, -, same, -⟩ := symbols?_eq_some_cases read
      · exact ⟨rfl, by simp, readable_nil⟩
      · cases same
  | cons symbol later ih =>
      obtain ⟨-, same⟩ | ⟨_, rest, _, known, rfl, found, same, closing⟩ :=
        symbols?_eq_some_cases read
      · cases same
      obtain ⟨rfl, rfl⟩ := List.cons.inj same
      obtain ⟨code, symbolsKnown, readable⟩ := ih found
      refine ⟨by rw [encode_cons, code], List.forall_mem_cons.2 ⟨known, symbolsKnown⟩, ?_⟩
      refine (readable_cons_iff _ _).2 ⟨?_, readable⟩
      intro next first
      refine mayFollow_symbols known (symbolsKnown next (List.mem_of_mem_head? first)) ?_
      -- With a comma behind, the reader would have taken its underscore too: what is left of the
      -- comma, `$_`, is an escape itself.
      rintro ⟨rfl, rfl⟩
      obtain ⟨-, same⟩ | ⟨_, tail, symbols, -, rfl, found', rfl, -⟩ :=
        symbols?_eq_some_cases found
      · rw [same] at first
        cases first
      cases first
      have none := closing rfl ('$' :: '_' :: tail) rfl
      rw [symbols?_opening, found'] at none
      cases none

/-- What is left of an escaped closing parenthesis without its underscore is not made of
escapes, unless a comma follows. -/
theorem symbols?_dollar_encode (symbols : List Char)
    (known : ∀ symbol ∈ symbols, isSymbol symbol = true) (readable : Readable (')' :: symbols)) :
    symbols? ('$' :: encode symbols) = none := by
  induction symbols with
  | nil => rfl
  | cons symbol later ih =>
      obtain ⟨symbolKnown, laterKnown⟩ := List.forall_mem_cons.1 known
      obtain ⟨follows, laterReadable⟩ := (readable_cons_iff _ _).1 readable
      obtain rfl | rfl | rfl := (isSymbol_iff symbol).1 symbolKnown
      · rfl
      · have none := ih laterKnown laterReadable
        change symbols? ('$' :: '_' :: '$' :: encode later) = _
        rw [symbols?_opening, none]
        rfl
      · exact absurd (by decide) (follows ',' rfl)

theorem symbols?_encode (symbols : List Char)
    (known : ∀ symbol ∈ symbols, isSymbol symbol = true) (readable : Readable symbols) :
    symbols? (encode symbols) = some symbols := by
  induction symbols with
  | nil => rfl
  | cons symbol later ih =>
      obtain ⟨symbolKnown, laterKnown⟩ := List.forall_mem_cons.1 known
      have found := ih laterKnown ((readable_cons_iff _ _).1 readable).2
      obtain rfl | rfl | rfl := (isSymbol_iff symbol).1 symbolKnown
      · change symbols? ('$' :: '_' :: encode later) = _
        rw [symbols?_opening, found]
        rfl
      · change symbols? ('_' :: '$' :: encode later) = _
        cases later with
        | nil => rfl
        | cons next rest =>
            obtain ⟨nextKnown, restKnown⟩ := List.forall_mem_cons.1 laterKnown
            obtain ⟨follows, laterReadable⟩ := (readable_cons_iff _ _).1 readable
            obtain rfl | rfl | rfl := (isSymbol_iff next).1 nextKnown
            · have other : (encode ('(' :: rest)).head? ≠ some '_' := by
                change some '$' ≠ some '_'
                decide
              rw [symbols?_closing _ other, found]
              rfl
            · have none := symbols?_dollar_encode rest restKnown laterReadable
              change symbols? ('_' :: '$' :: '_' :: '$' :: encode rest) = _
              change symbols? ('_' :: '$' :: encode rest) = _ at found
              rw [symbols?_comma, none, found]
              rfl
            · exact absurd (by decide) (follows ',' rfl)
      · change symbols? ('_' :: '$' :: '_' :: encode later) = _
        rw [symbols?_comma, found]

theorem symbols?_eq_some_iff (run symbols : List Char) :
    symbols? run = some symbols ↔
      encode symbols = run ∧ (∀ symbol ∈ symbols, isSymbol symbol = true) ∧ Readable symbols := by
  constructor
  · exact encode_of_symbols?
  · rintro ⟨rfl, known, readable⟩
    exact symbols?_encode symbols known readable

/-- The text is what the identifier is read as: of the texts with that code the one in which
nothing is misread. -/
structure StandsFor (identifier text : List Char) : Prop where
  code : encode text = identifier
  bare : '$' ∉ text
  readable : Readable text

namespace StandsFor

theorem nil : StandsFor [] [] := ⟨rfl, by simp, readable_nil⟩

theorem of_symbols {run symbols : List Char} (read : symbols? run = some symbols) :
    StandsFor run symbols := by
  obtain ⟨code, known, readable⟩ := (symbols?_eq_some_iff run symbols).1 read
  exact ⟨code, fun member => absurd (known '$' member) (by decide), readable⟩

/-- A literal underscore in front of a run. The run may not start with an opening parenthesis,
whose escape would be taken for the rest of a comma. -/
theorem underscore {run text : List Char} (stands : StandsFor run text)
    (apart : text.head? ≠ some '(') : StandsFor ('_' :: run) ('_' :: text) where
  code := congrArg ('_' :: ·) stands.code
  bare := by simpa using stands.bare
  readable := by
    refine (readable_cons_iff _ _).2 ⟨?_, stands.readable⟩
    intro next first
    apply mayFollow_underscore
    rintro rfl
    exact apart first

end StandsFor

theorem decodeRun?_of_symbols? {run symbols : List Char} (read : symbols? run = some symbols) :
    decodeRun? run = some symbols := by
  cases run with
  | nil => exact read
  | cons character rest => rw [decodeRun?_cons, read]

theorem decodeRun?_dollar (rest : List Char) :
    decodeRun? ('$' :: rest) = symbols? ('$' :: rest) := by
  rw [decodeRun?_cons]
  cases symbols? ('$' :: rest) <;> rfl

theorem standsFor_of_decodeRun? {run text : List Char} (read : decodeRun? run = some text) :
    StandsFor run text := by
  induction run generalizing text with
  | nil =>
      cases read
      exact .nil
  | cons character rest ih =>
      rw [decodeRun?_cons] at read
      cases found : symbols? (character :: rest) with
      | some symbols =>
          rw [found] at read
          cases read
          exact .of_symbols found
      | none =>
          simp only [found] at read
          split at read
          case isFalse => cases read
          case isTrue literal =>
            subst literal
            obtain ⟨later, readLater, rfl⟩ := Option.map_eq_some_iff.1 read
            have stands := ih readLater
            refine stands.underscore fun first => ?_
            -- With an opening parenthesis behind, the underscore would have been read as the
            -- front of a comma.
            obtain ⟨tail, rfl⟩ := List.head?_eq_some_iff.1 first
            obtain rfl : '$' :: '_' :: encode tail = rest := stands.code
            rw [decodeRun?_dollar, symbols?_opening] at readLater
            obtain ⟨symbols, made, -⟩ := Option.map_eq_some_iff.1 readLater
            rw [symbols?_comma, made] at found
            cases found

def isCoded (character : Char) : Bool :=
  character = '_' || isSymbol character

theorem isCoded_iff (character : Char) :
    isCoded character = true ↔ character = '_' ∨ isSymbol character = true := by
  simp [isCoded]

theorem isSymbol_of_readable {symbol : Char} {text : List Char}
    (known : isSymbol symbol = true) (coded : ∀ character ∈ text, isCoded character = true)
    (readable : Readable (symbol :: text)) :
    ∀ character ∈ text, isSymbol character = true := by
  induction text generalizing symbol with
  | nil => simp
  | cons next rest ih =>
      obtain ⟨nextCoded, restCoded⟩ := List.forall_mem_cons.1 coded
      obtain ⟨follows, nextReadable⟩ := (readable_cons_iff _ _).1 readable
      obtain rfl | nextKnown := (isCoded_iff next).1 nextCoded
      · have member : [symbol, '_'] ∈ misread := by
          obtain rfl | rfl | rfl := (isSymbol_iff symbol).1 known <;> decide
        exact absurd member (follows '_' rfl)
      · exact List.forall_mem_cons.2 ⟨nextKnown, ih nextKnown restCoded nextReadable⟩

theorem head?_of_encode_dollar {text rest : List Char}
    (coded : ∀ character ∈ text, isCoded character = true) (code : encode text = '$' :: rest) :
    text.head? = some '(' := by
  cases text with
  | nil => cases code
  | cons character later =>
      obtain rfl | known := (isCoded_iff character).1 (coded character List.mem_cons_self)
      · cases code
      · obtain rfl | rfl | rfl := (isSymbol_iff character).1 known
        · rfl
        · cases code
        · cases code

/-- An underscore in front of the code of readable text does not belong to an escape. -/
theorem symbols?_underscore_encode {text : List Char}
    (coded : ∀ character ∈ text, isCoded character = true) (readable : Readable ('_' :: text)) :
    symbols? ('_' :: encode text) = none := by
  rw [Option.eq_none_iff_forall_ne_some]
  intro symbols read
  obtain ⟨code, known, -⟩ := (symbols?_eq_some_iff _ symbols).1 read
  have dollar : ∃ rest, encode text = '$' :: rest := by
    cases symbols with
    | nil => cases code
    | cons symbol later =>
        obtain rfl | rfl | rfl := (isSymbol_iff symbol).1 (known symbol List.mem_cons_self)
        · cases code
        · exact ⟨_, (List.cons.inj code).2.symm⟩
        · exact ⟨_, (List.cons.inj code).2.symm⟩
  obtain ⟨rest, code⟩ := dollar
  have first := head?_of_encode_dollar coded code
  exact ((readable_cons_iff _ _).1 readable).1 '(' first (by decide)

theorem decodeRun?_encode (text : List Char)
    (coded : ∀ character ∈ text, isCoded character = true) (readable : Readable text) :
    decodeRun? (encode text) = some text := by
  induction text with
  | nil => rfl
  | cons character later ih =>
      obtain ⟨characterCoded, laterCoded⟩ := List.forall_mem_cons.1 coded
      obtain rfl | known := (isCoded_iff character).1 characterCoded
      · have found := ih laterCoded ((readable_cons_iff _ _).1 readable).2
        change decodeRun? ('_' :: encode later) = _
        rw [decodeRun?_cons, symbols?_underscore_encode laterCoded readable, found]
        rfl
      · have laterKnown := isSymbol_of_readable known laterCoded readable
        have allKnown : ∀ symbol ∈ character :: later, isSymbol symbol = true :=
          List.forall_mem_cons.2 ⟨known, laterKnown⟩
        apply decodeRun?_of_symbols?
        exact (symbols?_eq_some_iff _ _).2 ⟨rfl, allKnown, readable⟩

end StorageCompat.TypeKey
