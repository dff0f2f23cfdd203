import StorageCompat.Binary64.Basic
import StorageCompat.Text.Blank
import StorageCompat.Text.CodePoint
import StorageCompat.Text.Digit

/-!
Numerals, the texts that write numbers. Digits and exponents are read off the front of a
text. Whole numerals may have blanks around them and underscores between digits, and their
digits may be of any script. A decimal numeral of a whole number has a greatest length.
-/

namespace StorageCompat.Numeral

/-- The most digits of a whole number that is read or written in decimal. -/
def longest : Nat := 4300

def isWritable (number : Nat) : Bool :=
  (Nat.toDigits 10 number).length ≤ longest

def spanDigits (text : List Char) : List Char × List Char :=
  (text.takeWhile Char.isDigit, text.dropWhile Char.isDigit)

def digitsValue (digits : List Char) : Nat :=
  Text.baseValue 10 (digits.map fun digit => digit.toNat - '0'.toNat)

def splitSign : List Char → Bool × List Char
  | '-' :: rest => (true, rest)
  | '+' :: rest => (false, rest)
  | text => (false, text)

def signed (negative : Bool) (size : Nat) : Int :=
  if negative then -(size : Int) else size

def readExponent : List Char → Option (Int × List Char)
  | mark :: rest =>
      if mark = 'e' || mark = 'E' then
        let (negative, rest) := splitSign rest
        match spanDigits rest with
        | ([], _) => none
        | (digits, rest) => some (signed negative (digitsValue digits), rest)
      else none
  | [] => none

/-- A character of a numeral in its plain form: digits and blanks of other scripts become
those of ASCII, and what else is outside of ASCII becomes a character of no numeral. -/
def plainCharacter (character : Char) : Char :=
  if character.toNat < 127 then character
  else if Text.isBlank character then ' '
  else
    match Text.digitValue? character with
    | some digit => Char.ofNat ('0'.toNat + digit)
    | none => '?'

def isOuterBlank (character : Char) : Bool :=
  character = ' ' || (9 ≤ character.toNat && character.toNat ≤ 13)

def plain (text : List Char) : List Char :=
  (((text.map plainCharacter).dropWhile isOuterBlank).reverse.dropWhile isOuterBlank).reverse

/-- A text without its underscores, each of which has to stand between two digits. -/
def joinFrom? : (previous : Char) → List Char → Option (List Char)
  | previous, [] => if previous = '_' then none else some []
  | previous, character :: rest =>
      if character = '_' then if previous.isDigit then joinFrom? '_' rest else none
      else if previous = '_' && !character.isDigit then none
      else (joinFrom? character rest).map (character :: ·)

def joined? (text : List Char) : Option (List Char) := joinFrom? ' ' (plain text)

def decimal? (digits : List Char) : Option Nat :=
  if digits.isEmpty || !digits.all Char.isDigit || longest < digits.length then none
  else some (digitsValue digits)

def int? (text : List Char) : Option Int := do
  let text ← joined? text
  let (negative, digits) := splitSign text
  let size ← decimal? digits
  return signed negative size

def inBase? (base : Nat) (digits : List Char) : Option Nat := do
  let values ← digits.mapM Text.hexValue?
  if values.isEmpty || !values.all (· < base) then none
  else return Text.baseValue base values

/-- A whole number in a base that the letter behind a leading zero names, or else in decimal;
there a leading zero stands before zeros only. -/
def literalSize? : List Char → Option Nat
  | '0' :: 'x' :: digits | '0' :: 'X' :: digits => inBase? 16 digits
  | '0' :: 'o' :: digits | '0' :: 'O' :: digits => inBase? 8 digits
  | '0' :: 'b' :: digits | '0' :: 'B' :: digits => inBase? 2 digits
  | digits => do
      let size ← decimal? digits
      if digits.head? = some '0' && size != 0 then none else return size

def literal? (text : List Char) : Option Int := do
  let (negative, digits) := splitSign (plain text)
  let size ← literalSize? digits
  return signed negative size

def named? (negative : Bool) (name : List Char) : Option Binary64 :=
  if name = "inf".toList || name = "infinity".toList then some (.infinite negative)
  else if name = "nan".toList then some .nan
  else none

def finite? (negative : Bool) (text : List Char) : Option Binary64 := do
  let (whole, rest) := spanDigits text
  let (behind, rest) := match rest with
    | '.' :: rest => spanDigits rest
    | rest => ([], rest)
  let (power, rest) ← match rest with
    | [] => some (0, [])
    | rest => readExponent rest
  if (whole.isEmpty && behind.isEmpty) || !rest.isEmpty then none
  else
    return Binary64.ofDecimal negative (digitsValue (whole ++ behind)) (power - behind.length)

def float? (text : List Char) : Option Binary64 := do
  let text ← joined? text
  let (negative, text) := splitSign text
  match named? negative (text.map Char.toLower) with
  | some number => return number
  | none => finite? negative text

end StorageCompat.Numeral
