import StorageCompat.Binary64.Basic

/-!
The shortest decimal that reads back as a given floating-point number, and its written
form. For each count of digits the two neighbours of the exact value on that decimal grid
are tried; the first grid that has a point in the interval of reals rounding to the number
gives the digits.
-/

namespace StorageCompat.Binary64

/-- A positive decimal: its digits, the first of them in the place of `10 ^ exponent`. -/
structure Decimal where
  digits : List Char
  exponent : Int
  deriving DecidableEq, Repr

def floorLog10 (numerator denominator : Nat) : Int :=
  if denominator ≤ numerator then
    ((Nat.toDigits 10 (numerator / denominator)).length : Int) - 1
  else
    let places := (Nat.toDigits 10 ((denominator - 1) / numerator)).length
    0 - (places : Int)

/-- The reals that round to a number, in units of `2 ^ (exponent - 2)`: four times the
significand lies at `middle`, and the ends belong to the interval when it is `closed`. -/
structure Interval where
  low : Nat
  middle : Nat
  high : Nat
  closed : Bool

def interval (significand : Nat) (exponent : Int) : Interval where
  low := 4 * significand -
    (if significand = power 2 52 ∧ leastExponent < exponent then 1 else 2)
  middle := 4 * significand
  high := 4 * significand + 2
  closed := significand % 2 == 0

def gridPoint? (range : Interval) (unit step : Nat) : Option Nat :=
  let below := range.middle * unit / step
  let inside (point : Nat) : Bool :=
    if range.closed then
      range.low * unit ≤ point * step && point * step ≤ range.high * unit
    else range.low * unit < point * step && point * step < range.high * unit
  let toBelow := range.middle * unit - below * step
  let toAbove := (below + 1) * step - range.middle * unit
  match inside below && below != 0, inside (below + 1) with
  | true, true =>
      some (if toBelow < toAbove then below
        else if toAbove < toBelow then below + 1
        else below + below % 2)
  | true, false => some below
  | false, true => some (below + 1)
  | false, false => none

def shortestFrom (range : Interval) (exponent leading : Int) : (more count : Nat) → Decimal
  | 0, count => ⟨List.replicate count '0', leading⟩
  | more + 1, count =>
      let place := leading + 1 - count
      let unit := power 2 (exponent - 2) * power 10 (-place)
      let step := power 10 place * power 2 (2 - exponent)
      match gridPoint? range unit step with
      | some point =>
          let digits := Nat.toDigits 10 point
          ⟨digits, leading + (digits.length : Int) - count⟩
      | none => shortestFrom range exponent leading more (count + 1)

/-- Seventeen digits always suffice. -/
def shortest (significand : Nat) (exponent : Int) : Decimal :=
  let leading := floorLog10 (significand * power 2 exponent) (power 2 (-exponent))
  shortestFrom (interval significand exponent) exponent leading 17 1

def Decimal.trimmed (decimal : Decimal) : List Char :=
  match (decimal.digits.reverse.dropWhile (· == '0')).reverse with
  | [] => ['0']
  | digits => digits

/-- Positional from `10 ^ -4` up to `10 ^ 16`, with at least one digit behind the point;
otherwise one digit before the point and an exponent of at least two digits. -/
def Decimal.written (decimal : Decimal) : List Char :=
  let digits := decimal.trimmed
  let exponent := decimal.exponent
  if exponent < -4 || 16 ≤ exponent then
    let fraction := match digits.drop 1 with
      | [] => []
      | rest => '.' :: rest
    let sign := if exponent < 0 then '-' else '+'
    let size := Nat.toDigits 10 exponent.natAbs
    let size := if size.length < 2 then '0' :: size else size
    digits.take 1 ++ fraction ++ 'e' :: sign :: size
  else if exponent < 0 then
    ['0', '.'] ++ List.replicate ((-exponent).toNat - 1) '0' ++ digits
  else
    let whole := exponent.toNat + 1
    let fraction := match digits.drop whole with
      | [] => ['0']
      | rest => rest
    digits.take whole ++ List.replicate (whole - digits.length) '0' ++ '.' :: fraction

def finiteText (negative : Bool) (significand : Nat) (exponent : Int) : String :=
  let sign := if negative then ['-'] else []
  let text := if significand = 0 then ['0', '.', '0'] else (shortest significand exponent).written
  String.ofList (sign ++ text)

structure Spelling where
  nan : String
  infinite : String
  negativeInfinite : String

def toText (spelling : Spelling) : Binary64 → String
  | .nan => spelling.nan
  | .infinite false => spelling.infinite
  | .infinite true => spelling.negativeInfinite
  | .finite negative significand exponent => finiteText negative significand exponent

end StorageCompat.Binary64
