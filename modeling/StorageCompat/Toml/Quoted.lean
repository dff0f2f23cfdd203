import StorageCompat.Text.CodePoint
import StorageCompat.Toml.Refusal
import StorageCompat.Toml.Stretches

/-!
Texts between quotes, single or triple. Double quotes allow escapes: those that name a code
point are resolved first, the others afterwards, so a backslash that a code point names may
still start an escape.
-/

namespace StorageCompat.Toml

def escaped? : Char → Option Char
  | '0' => some '\x00'
  | 'b' => some '\x08'
  | 'f' => some '\x0c'
  | 'n' => some '\n'
  | 'r' => some '\r'
  | 't' => some '\t'
  | '"' => some '"'
  | '\\' => some '\\'
  | _ => none

def namesCodePoint (letter : Char) : Bool := letter = 'u' || letter = 'U'

/-- A text with its escapes of one letter resolved. Escapes that name a code point, and a
backslash at the end, stay as they are. -/
def unescape : List Char → Option (List Char)
  | '\\' :: letter :: rest =>
      if namesCodePoint letter then
        (unescape rest).map fun rest => '\\' :: letter :: rest
      else do
        let character ← escaped? letter
        let rest ← unescape rest
        return character :: rest
  | character :: rest => (unescape rest).map (character :: ·)
  | [] => some []

/-- Whether backslashes start known escapes, seen from the pieces between them. An empty
piece stands between two backslashes in a row; what follows the second of them is free. -/
def escapesAreKnown : (escaped : Bool) → List (List Char) → Bool
  | _, [] => true
  | escaped, [] :: rest => escapesAreKnown (!escaped) rest
  | escaped, (letter :: _) :: rest =>
      ((escaped? letter).isSome || namesCodePoint letter || escaped) &&
        escapesAreKnown false rest

def codePoint (digits : List Char) : Reading Nat := do
  match ← required (digits.mapM Text.hexValue?) with
  | [] => throw .absent
  | first :: rest =>
      if first = 0xd then
        if 8 ≤ (← present rest.head?) then throw .malformed
      let number := Text.baseValue 16 (first :: rest)
      if 0x7fffffff < number then throw .tooLarge
      else if 0x10ffff < number then throw .malformed
      else return number

/-- The pieces of a text behind the marks of code points, each with its digits resolved. A
mark behind a backslash that escapes it stays; but behind a mark that was resolved none
does. -/
def placeCodePoints (mark : List Char) (digits : Nat) :
    (escaped : Bool) → List (List Char) → Reading (List Char)
  | _, [] => .ok []
  | true, piece :: rest => do
      let rest ← placeCodePoints mark digits (escapesNext piece.reverse) rest
      return mark ++ piece ++ rest
  | false, piece :: rest => do
      let number ← codePoint (piece.take digits)
      let some character := Text.ofCodePoint? number | throw .unpaired
      let rest ← placeCodePoints mark digits false rest
      return character :: (piece.drop digits ++ rest)

def resolveCodePoints (mark : List Char) (digits : Nat) (text : List Char) :
    Reading (List Char) :=
  match Text.piecesAt mark text with
  | [] => .ok []
  | first :: rest => do
      let rest ← placeCodePoints mark digits (escapesNext first.reverse) rest
      return first ++ rest

def resolve (text : List Char) : Reading (List Char) := do
  if escapesAreKnown false ((Text.pieces '\\' text).drop 1) then
    let text ← resolveCodePoints ['\\', 'u'] 4 text
    let text ← resolveCodePoints ['\\', 'U'] 8 text
    required (unescape text)
  else throw .malformed

/-- Nothing follows the mark that closes a text, seen from the pieces between the marks. A
piece that ends in a backslash that escapes the mark behind it closes nothing; `marks` counts
the empty pieces in a row of a text between triple quotes. -/
def endsOnce (triple : Bool) : (closed : Bool) → (marks : Nat) → List (List Char) → Bool
  | _, _, [] => true
  | closed, marks, piece :: rest =>
      if piece.isEmpty then
        if triple then endsOnce triple closed (marks + 1) rest
        else endsOnce triple true marks rest
      else if escapesNext piece.reverse then endsOnce triple closed marks rest
      else if closed then false
      else if !triple || 1 < marks then endsOnce triple true marks rest
      else endsOnce triple closed 0 rest

def isClosedOnce (mark : Char) (text : List Char) : Bool :=
  match Text.pieces mark (text.drop 1) with
  | [] :: [] :: pieces => endsOnce true false 0 pieces
  | pieces => endsOnce false false 0 pieces

/-- What stands between the marks, of which there are three on each side if the first two are
followed by nothing or by a third. -/
def betweenMarks (mark : Char) : List Char → List Char
  | first :: second :: rest =>
      if second = mark && (rest.isEmpty || rest.head? = some mark) then
        inside (inside (inside (first :: second :: rest)))
      else inside (first :: second :: rest)
  | text => inside text

def readQuoted (mark : Char) (text : List Char) : Reading String := do
  if isClosedOnce mark text then
    let text ← if mark = '"' then resolve text else pure text
    return String.ofList (betweenMarks mark text)
  else throw .malformed

end StorageCompat.Toml
