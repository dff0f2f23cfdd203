import StorageCompat.Numeral
import StorageCompat.Text.Pieces
import StorageCompat.Toml.Refusal
import StorageCompat.Value.Basic

/-!
Dates and times of a settings file. A time of day is written in two digits each. The parts of
a date stand at fixed places of the text, whatever stands between them, and each is a whole
number as numerals write it; behind the seconds a fraction or a zone may follow.
-/

namespace StorageCompat.Toml

def shownNumbers (kept : Nat) (numbers : List Nat) : String :=
  let optional := ((numbers.drop kept).reverse.dropWhile (· == 0)).reverse
  ", ".intercalate ((numbers.take kept ++ optional).map toString)

structure Clock where
  hour : Nat
  minute : Nat
  second : Nat
  fraction : Nat

namespace Clock

def isValid (clock : Clock) : Bool :=
  clock.hour < 24 && clock.minute < 60 && clock.second < 60 && clock.fraction < 1000000

def numbers (clock : Clock) : List Nat :=
  [clock.hour, clock.minute, clock.second, clock.fraction]

end Clock

def twoDigits? : List Char → Option (Nat × List Char)
  | first :: second :: rest =>
      if first.isDigit && second.isDigit then
        some (Numeral.digitsValue [first, second], rest)
      else none
  | _ => none

def after? (character : Char) : List Char → Option (List Char)
  | first :: rest => if first = character then some rest else none
  | [] => none

def shortFraction : List Char → Nat
  | '.' :: rest =>
      let digits := (rest.takeWhile Char.isDigit).take 6
      if digits.length < 3 then 0 else Numeral.digitsValue digits
  | _ => 0

def clock? (text : List Char) : Option Clock := do
  let (hour, rest) ← twoDigits? text
  let (minute, rest) ← twoDigits? (← after? ':' rest)
  let (second, rest) ← twoDigits? (← after? ':' rest)
  return ⟨hour, minute, second, shortFraction rest⟩

def Clock.toValue? (clock : Clock) : Option Value :=
  if clock.isValid then
    some (.moment ("datetime.time(" ++ shownNumbers 2 clock.numbers ++ ")"))
  else none

structure Day where
  year : Nat
  month : Nat
  day : Nat

namespace Day

def isLeapYear (year : Nat) : Bool :=
  year % 4 == 0 && (year % 100 != 0 || year % 400 == 0)

def daysInMonth (year month : Nat) : Nat :=
  if month = 2 then (if isLeapYear year then 29 else 28)
  else if [4, 6, 9, 11].contains month then 30
  else 31

def isValid (day : Day) : Bool :=
  1 ≤ day.year && 1 ≤ day.month && day.month ≤ 12 && 1 ≤ day.day &&
    day.day ≤ daysInMonth day.year day.month

def numbers (day : Day) : List Nat := [day.year, day.month, day.day]

end Day

def slice (first last : Nat) (text : List Char) : List Char := (text.take last).drop first

def numberAt? (first last : Nat) (text : List Char) : Option Nat := do
  match ← Numeral.int? (slice first last text) with
  | .ofNat number => some number
  | .negSucc _ => none

def isZone (zone : List Char) : Bool :=
  zone = ['Z'] ||
    ((Numeral.int? (slice 1 3 zone)).isSome && (Numeral.int? (slice 4 6 zone)).isSome)

/-- The millionths that a fraction of a second comes to, given its value as a whole number
and its length. Those of a long one are what is left of a product of rounded numbers. -/
def millionths (value : Int) (length : Nat) : Reading Int :=
  if length ≤ 6 then .ok (value * Nat.pow 10 (6 - length))
  else
    match Binary64.ofInt value with
    | .infinite _ => .error .tooLarge
    | number =>
        .ok (number.times (.ofQuotient false 1 (Nat.pow 10 (length - 6)))).truncated

def cutBefore? (characters : List Char) (text : List Char) :
    Option (List Char × List Char) :=
  characters.findSome? fun character =>
    (Text.cut? character text).map fun parts => (parts.1, character :: parts.2)

def splitFraction (text : List Char) : List Char × Option (List Char) :=
  if text.getLast? = some 'Z' || text.getLast? = some 'z' then (text.dropLast, some ['Z'])
  else
    match cutBefore? ['+', '-'] text with
    | some (fraction, zone) => (fraction, some zone)
    | none => (text, none)

/-- The millionths and whether there is a zone, from what follows the seconds. A part that is
wrong takes the other with it. -/
def readTail (tail : List Char) : Reading (Int × Bool) :=
  match tail with
  | [] => .ok (0, false)
  | '.' :: rest =>
      let (fraction, zone) := splitFraction rest
      match (zone.map isZone).getD true, Numeral.int? fraction with
      | true, some value => do
          let fraction ← millionths value fraction.length
          return (fraction, zone.isSome)
      | _, _ => .ok (0, false)
  | zone => .ok (0, isZone zone)

def day? (text : List Char) : Option Day := do
  let year ← numberAt? 0 4 text
  let month ← numberAt? 5 7 text
  let day ← numberAt? 8 10 text
  let day : Day := ⟨year, month, day⟩
  if day.isValid then return day else none

def clockOfDay? (text : List Char) (fraction : Int) : Option Clock := do
  let hour ← numberAt? 11 13 text
  let minute ← numberAt? 14 16 text
  let second ← numberAt? 17 19 text
  let clock : Clock := ⟨hour, minute, second, fraction.toNat⟩
  if clock.isValid && 0 ≤ fraction then return clock else none

def readDate (text : List Char) : Reading (Option Value) := do
  let (fraction, zoned) ← readTail (text.drop 19)
  if !(text.drop 1).contains '-' then return none
  else
    return do
      let day ← day? text
      if text.length = 10 then
        return .moment ("datetime.date(" ++ shownNumbers 3 day.numbers ++ ")")
      else
        let clock ← clockOfDay? text fraction
        let zone := if zoned then ", tzinfo=<zone>" else ""
        return .moment ("datetime.datetime(" ++
          shownNumbers 5 (day.numbers ++ clock.numbers) ++ zone ++ ")")

end StorageCompat.Toml
