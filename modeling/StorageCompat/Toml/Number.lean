import StorageCompat.Numeral
import StorageCompat.Text.Pieces
import StorageCompat.Value.Basic

/-!
Numbers of a settings file. They may have underscores, and a sign in front of all that
numerals allow, which may be a sign of their own. How underscores and leading zeros are
placed is a rule apart: a number that breaks it is none, but the same text may be a date.
-/

namespace StorageCompat.Toml

def haveNeighbours (first second : Char) (text : List Char) : Bool :=
  (text.zip (text.drop 1)).contains (first, second)

def hasLeadingZero (allowed : List Char) : List Char → Bool
  | '0' :: second :: _ => !allowed.contains second
  | _ => false

/-- Underscores and leading zeros of a number stand where they may: an underscore neither at
an end nor beside a point nor beside another, a zero not in front of further digits. -/
def isWellPlaced (text : List Char) : Bool :=
  let text := Text.stripBlanks text
  if text.isEmpty || text.head? = some '_' || text.getLast? = some '_' then false
  else if haveNeighbours '_' '.' text || haveNeighbours '.' '_' text then false
  else if text.length = 1 then true
  else if hasLeadingZero ['.', 'o', 'b', 'x'] text then false
  else
    let isSigned := text.head? = some '-' || text.head? = some '+'
    let digits := if isSigned then text.drop 1 else text
    !(isSigned && hasLeadingZero ['.'] digits) && !haveNeighbours '_' '_' digits

def negated : Binary64 → Binary64
  | .nan => .nan
  | .infinite negative => .infinite !negative
  | .finite negative significand exponent =>
      if significand = 0 then .finite false significand exponent
      else .finite (!negative) significand exponent

/-- A number is written with a point or an exponent. The letter of an exponent is none in a
number that has the letter of a base. -/
def isFractional (text : List Char) : Bool :=
  text.contains '.' || (!text.contains 'x' && (text.contains 'e' || text.contains 'E'))

def readFractional (text : List Char) : Option Binary64 :=
  let startsWithDigit := (text.head?.map Char.isDigit).getD false
  let endsAtPoint := (Text.cut? '.' text).any fun parts => parts.2.isEmpty
  if startsWithDigit && !endsAtPoint then Numeral.float? text else none

def readUnsigned (text : List Char) : Option Value :=
  let name := text.map Char.toLower
  if isFractional text then (readFractional text).map Value.float
  else if name = "inf".toList then some (.float (.infinite false))
  else if name = "nan".toList then some (.float .nan)
  else (Numeral.literal? text).map Value.int

def readNumber (text : List Char) : Option Value := do
  let (negative, text) := Numeral.splitSign text
  match ← readUnsigned (text.filter (· != '_')) with
  | .int value => return .int (if negative then -value else value)
  | .float value => return .float (if negative then negated value else value)
  | value => return value

end StorageCompat.Toml
