import StorageCompat.Numeral
import StorageCompat.Value.Basic

/-!
Values read from JSON. The reader takes exactly one value with blanks around it; a name that
comes twice in an object keeps its first place and takes its last value. Besides the
standard's numbers it takes the names of those that are not finite.

Each reading step returns what it read and the characters behind it.
-/

namespace StorageCompat.Json

inductive Refusal where
  /-- It is not JSON. -/
  | malformed
  /-- A whole number in it has too many digits. -/
  | tooLong (digits : Nat)
  /-- Half of a surrogate pair is escaped in it without the other half. No text holds it. -/
  | unpaired
  deriving DecidableEq, Repr

abbrev Reading := Except Refusal

def required {α : Type} : Option α → Reading α
  | some value => .ok value
  | none => .error .malformed

def isBlank (character : Char) : Bool :=
  character = ' ' || character = '\t' || character = '\n' || character = '\r'

def skipBlanks (text : List Char) : List Char :=
  text.dropWhile isBlank

def codeUnit? (first second third fourth : Char) : Option Nat := do
  let high ← Text.hexValue? first
  let next ← Text.hexValue? second
  let low ← Text.hexValue? third
  let last ← Text.hexValue? fourth
  return ((high * 16 + next) * 16 + low) * 16 + last

def escaped? : Char → Option Char
  | '"' => some '"'
  | '\\' => some '\\'
  | '/' => some '/'
  | 'b' => some '\x08'
  | 'f' => some '\x0c'
  | 'n' => some '\n'
  | 'r' => some '\r'
  | 't' => some '\t'
  | _ => none

def surrogatePair? (high low : Nat) : Option Char :=
  if 0xd800 ≤ high && high < 0xdc00 && 0xdc00 ≤ low && low < 0xe000 then
    some (Char.ofNat (0x10000 + (high - 0xd800) * 0x400 + (low - 0xdc00)))
  else none

def wholeUnit (unit : Nat) : Reading Char :=
  match Text.ofCodePoint? unit with
  | some character => .ok character
  | none => .error .unpaired

/-- The characters up to the closing quote. A control character has to be escaped. -/
def readText : List Char → Reading (List Char × List Char)
  | [] => .error .malformed
  | '"' :: rest => .ok ([], rest)
  | '\\' :: 'u' :: a :: b :: c :: d :: '\\' :: 'u' :: e :: f :: g :: h :: rest => do
      let unit ← required (codeUnit? a b c d)
      match (codeUnit? e f g h).bind (surrogatePair? unit) with
      | some character =>
          let (text, rest) ← readText rest
          return (character :: text, rest)
      | none =>
          let character ← wholeUnit unit
          let (text, rest) ← readText ('\\' :: 'u' :: e :: f :: g :: h :: rest)
          return (character :: text, rest)
  | '\\' :: 'u' :: a :: b :: c :: d :: rest => do
      let unit ← required (codeUnit? a b c d)
      let character ← wholeUnit unit
      let (text, rest) ← readText rest
      return (character :: text, rest)
  | '\\' :: letter :: rest => do
      let character ← required (escaped? letter)
      let (text, rest) ← readText rest
      return (character :: text, rest)
  | character :: rest => do
      if character.toNat < 0x20 then throw .malformed
      else
        let (text, rest) ← readText rest
        return (character :: text, rest)

def readFraction : List Char → Option (List Char × List Char)
  | '.' :: rest =>
      match Numeral.spanDigits rest with
      | ([], _) => none
      | found => some found
  | _ => none

def readWhole : List Char → Option (List Char × List Char)
  | '0' :: rest => some (['0'], rest)
  | text =>
      match Numeral.spanDigits text with
      | ([], _) => none
      | found => some found

/-- A number behind its sign. It has a fraction if a point or an exponent is written, and a
whole number must not have too many digits. -/
def readNumber (negative : Bool) (text : List Char) : Reading (Value × List Char) := do
  let (whole, rest) ← required (readWhole text)
  let fraction := readFraction rest
  let rest := (fraction.map Prod.snd).getD rest
  let exponent := Numeral.readExponent rest
  let rest := (exponent.map Prod.snd).getD rest
  match fraction, exponent with
  | none, none =>
      if Numeral.longest < whole.length then throw (.tooLong whole.length)
      else return (.int (Numeral.signed negative (Numeral.digitsValue whole)), rest)
  | _, _ =>
      let behind := (fraction.map Prod.fst).getD []
      let power := (exponent.map Prod.fst).getD 0
      let digits := Numeral.digitsValue (whole ++ behind)
      return (.float (.ofDecimal negative digits (power - behind.length)), rest)

def afterWord? (word text : List Char) : Option (List Char) :=
  if word.isPrefixOf text then some (text.drop word.length) else none

def constants : List (String × Value) :=
  [("null", .null), ("true", .bool true), ("false", .bool false), ("NaN", .float .nan),
    ("Infinity", .float (.infinite false)), ("-Infinity", .float (.infinite true))]

def readConstant (text : List Char) : Option (Value × List Char) :=
  constants.findSome? fun entry =>
    (afterWord? entry.1.toList text).map fun rest => (entry.2, rest)

mutual

/-- One value at the very front. Each step down or along spends one of `fuel`. -/
def readValue : (fuel : Nat) → List Char → Reading (Value × List Char)
  | 0, _ => .error .malformed
  | fuel + 1, text =>
      match text with
      | '"' :: rest => do
          let (characters, rest) ← readText rest
          return (.text (String.ofList characters), rest)
      | '{' :: rest =>
          match skipBlanks rest with
          | '}' :: rest => .ok (.object [], rest)
          | rest => readEntries fuel [] rest
      | '[' :: rest =>
          match skipBlanks rest with
          | ']' :: rest => .ok (.list [], rest)
          | rest => do
              let (items, rest) ← readItems fuel rest
              return (.list items, rest)
      | text =>
          match readConstant text with
          | some found => .ok found
          | none =>
              match text with
              | '-' :: rest => readNumber true rest
              | text => readNumber false text
termination_by structural fuel => fuel

def readItems : (fuel : Nat) → List Char → Reading (List Value × List Char)
  | 0, _ => .error .malformed
  | fuel + 1, text => do
      let (value, rest) ← readValue fuel text
      match skipBlanks rest with
      | ',' :: rest =>
          let (values, rest) ← readItems fuel (skipBlanks rest)
          return (value :: values, rest)
      | ']' :: rest => return ([value], rest)
      | _ => throw .malformed
termination_by structural fuel => fuel

def readEntries : (fuel : Nat) → List (String × Value) → List Char →
    Reading (Value × List Char)
  | 0, _, _ => .error .malformed
  | fuel + 1, entries, text =>
      match text with
      | '"' :: rest => do
          let (name, rest) ← readText rest
          match skipBlanks rest with
          | ':' :: rest =>
              let (value, rest) ← readValue fuel (skipBlanks rest)
              let entries := Entries.insert (String.ofList name) value entries
              match skipBlanks rest with
              | ',' :: rest => readEntries fuel entries (skipBlanks rest)
              | '}' :: rest => return (.object entries, rest)
              | _ => throw .malformed
          | _ => throw .malformed
      | _ => .error .malformed
termination_by structural fuel => fuel

end

/-- The one value of a text. Every step of the reader takes a character, so the length of the
text is fuel enough. -/
def read (text : String) : Reading Value := do
  let characters := text.toList
  let (value, rest) ← readValue (characters.length + 1) (skipBlanks characters)
  if (skipBlanks rest).isEmpty then return value else throw .malformed

end StorageCompat.Json
