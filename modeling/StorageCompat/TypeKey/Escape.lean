import StorageCompat.Fault

/-!
Type identifiers as compilers write them have no parentheses and no commas: these symbols are
escaped by sequences of `_` and `$`. The sequences can be cut in more than one way, and a
name may bring underscores of its own, so each maximal run of the two characters is decoded
as a whole: the shortest front of literal underscores whose remainder is made of escapes,
and there the longest escape first that leaves something made of escapes.
-/

namespace StorageCompat.TypeKey

def isEscape (character : Char) : Bool :=
  character = '_' || character = '$'

def escape : Char → List Char
  | '(' => ['$', '_']
  | ')' => ['_', '$']
  | ',' => ['_', '$', '_']
  | character => [character]

def encode (text : List Char) : List Char :=
  text.flatMap escape

@[simp] theorem encode_nil : encode [] = [] := rfl

@[simp] theorem encode_cons (character : Char) (text : List Char) :
    encode (character :: text) = escape character ++ encode text := rfl

@[simp] theorem encode_append (first later : List Char) :
    encode (first ++ later) = encode first ++ encode later :=
  List.flatMap_append

/-- What is known of a run and of its ends: the symbols it is made of, the same without its
first and without its first two characters, and its decoded form. -/
structure RunReading where
  symbols : Option (List Char)
  afterOne : Option (List Char)
  afterTwo : Option (List Char)
  decoded : Option (List Char)

namespace RunReading

/-- The symbols of a run in front of a run that is read already: the longest escape whose
remainder is made of escapes. -/
def symbolsOf (run : List Char) (later : RunReading) : Option (List Char) :=
  match run with
  | '_' :: '$' :: '_' :: _ =>
      match later.afterTwo with
      | some symbols => some (',' :: symbols)
      | none => later.afterOne.map (')' :: ·)
  | '$' :: '_' :: _ => later.afterOne.map ('(' :: ·)
  | '_' :: '$' :: _ => later.afterOne.map (')' :: ·)
  | _ => none

end RunReading

def readRun : List Char → RunReading
  | [] => ⟨some [], none, none, some []⟩
  | character :: rest =>
      let later := readRun rest
      let symbols := RunReading.symbolsOf (character :: rest) later
      { symbols := symbols
        afterOne := later.symbols
        afterTwo := later.afterOne
        decoded :=
          match symbols with
          | some symbols => some symbols
          | none => if character = '_' then later.decoded.map ('_' :: ·) else none }

def symbols? (run : List Char) : Option (List Char) := (readRun run).symbols

def decodeRun? (run : List Char) : Option (List Char) := (readRun run).decoded

/-- A comma is preferred to a closing parenthesis that leaves an underscore. -/
theorem symbols?_comma (rest : List Char) :
    symbols? ('_' :: '$' :: '_' :: rest) =
      match symbols? rest with
      | some symbols => some (',' :: symbols)
      | none => (symbols? ('_' :: rest)).map (')' :: ·) := rfl

theorem symbols?_opening (rest : List Char) :
    symbols? ('$' :: '_' :: rest) = (symbols? rest).map ('(' :: ·) := rfl

theorem symbols?_closing (rest : List Char) (other : rest.head? ≠ some '_') :
    symbols? ('_' :: '$' :: rest) = (symbols? rest).map (')' :: ·) := by
  match rest with
  | [] => rfl
  | character :: rest =>
      have different : character ≠ '_' := by simpa using other
      simp only [symbols?, readRun, RunReading.symbolsOf]
      split <;> simp_all

theorem decodeRun?_cons (character : Char) (rest : List Char) :
    decodeRun? (character :: rest) =
      match symbols? (character :: rest) with
      | some symbols => some symbols
      | none => if character = '_' then (decodeRun? rest).map ('_' :: ·) else none := rfl

def segments (identifier : List Char) : List (List Char) :=
  identifier.splitBy fun first second => isEscape first == isEscape second

def decodeSegment (identifier segment : List Char) : Except Fault (List Char) :=
  if segment.any isEscape then
    match decodeRun? segment with
    | some text => .ok text
    | none => .error (.undecodable (String.ofList segment) (String.ofList identifier))
  else .ok segment

/-- The text that an identifier stands for. The leftmost run that cannot be decoded is named
when it is refused. -/
def decode (identifier : List Char) : Except Fault (List Char) := do
  let pieces ← (segments identifier).mapM (decodeSegment identifier)
  return pieces.flatten

example : decode "t_mapping$_t_address_$_t_uint256_$".toList =
    .ok "t_mapping(t_address,t_uint256)".toList := rfl

example : decode "t_struct$__Bar_$1".toList =
    .error (.undecodable "$__" "t_struct$__Bar_$1") := rfl

end StorageCompat.TypeKey
