/-!
Binary floating-point numbers with 53 significant bits, kept as exact dyadic values. A
finite number is `significand * 2 ^ exponent`; reading a decimal rounds the exact quotient
to the nearest such number, a tie going to the even significand.
-/

namespace StorageCompat

/-- A floating-point number of 64 bits. A finite one has a significand below `2 ^ 53` and an
exponent of at least `-1074`; the significand is at least `2 ^ 52` unless the exponent is
`-1074`. -/
inductive Binary64 where
  | nan
  | infinite (negative : Bool)
  | finite (negative : Bool) (significand : Nat) (exponent : Int)
  deriving DecidableEq, Repr

namespace Binary64

def leastExponent : Int := -1074

def greatestExponent : Int := 971

def zero (negative : Bool) : Binary64 := .finite negative 0 leastExponent

def power (base : Nat) (exponent : Int) : Nat := Nat.pow base exponent.toNat

/-- The quotient rounded to the nearest natural number, a tie going to the even one. -/
def roundDiv (numerator denominator : Nat) : Nat :=
  let quotient := numerator / denominator
  let twice := 2 * (numerator % denominator)
  if twice < denominator then quotient
  else if denominator < twice then quotient + 1
  else quotient + quotient % 2

def floorLog2 (numerator denominator : Nat) : Int :=
  let estimate : Int := (Nat.log2 numerator : Int) - (Nat.log2 denominator : Int)
  let reached :=
    if 0 ≤ estimate then denominator * power 2 estimate ≤ numerator
    else denominator ≤ numerator * power 2 (-estimate)
  if reached then estimate else estimate - 1

/-- The number nearest to a quotient, ties to even; infinite beyond the finite range. -/
def ofQuotient (negative : Bool) (numerator denominator : Nat) : Binary64 :=
  if numerator = 0 then zero negative
  else
    let exponent := max leastExponent (floorLog2 numerator denominator - 52)
    let significand :=
      if 0 ≤ exponent then roundDiv numerator (denominator * power 2 exponent)
      else roundDiv (numerator * power 2 (-exponent)) denominator
    let carried := significand = power 2 53
    let exponent := if carried then exponent + 1 else exponent
    let significand := if carried then power 2 52 else significand
    if greatestExponent < exponent then .infinite negative
    else .finite negative significand exponent

/-- The number nearest to `digits * 10 ^ exponent`. Decimals far beyond either end of the
range are settled by their size alone. -/
def ofDecimal (negative : Bool) (digits : Nat) (exponent : Int) : Binary64 :=
  if digits = 0 then zero negative
  else
    let size : Int := (Nat.toDigits 10 digits).length + exponent
    if 400 < size then .infinite negative
    else if size < -400 then zero negative
    else if 0 ≤ exponent then ofQuotient negative (digits * power 10 exponent) 1
    else ofQuotient negative digits (power 10 (-exponent))

def ofInt (value : Int) : Binary64 := ofQuotient (value < 0) value.natAbs 1

def times : Binary64 → Binary64 → Binary64
  | .finite negative significand exponent, .finite negative' significand' exponent' =>
      ofQuotient (negative != negative')
        (significand * significand' * power 2 (exponent + exponent'))
        (power 2 (-(exponent + exponent')))
  | _, _ => .nan

def truncated : Binary64 → Int
  | .finite negative significand exponent =>
      let size := significand * power 2 exponent / power 2 (-exponent)
      if negative then -(size : Int) else size
  | _ => 0

def toInt? : Binary64 → Option Int
  | .finite negative significand exponent =>
      let magnitude : Option Nat :=
        if 0 ≤ exponent then some (significand * power 2 exponent)
        else if significand % power 2 (-exponent) = 0 then
          some (significand / power 2 (-exponent))
        else none
      magnitude.map fun size => if negative then -(size : Int) else size
  | _ => none

def isZero : Binary64 → Bool
  | .finite _ significand _ => significand == 0
  | _ => false

def sameNumber : Binary64 → Binary64 → Bool
  | .nan, _ => false
  | first, second => first == second || (first.isZero && second.isZero)

example : ofDecimal false 1 (-1) = .finite false 0x1999999999999a (-56) := by decide
example : ofDecimal false 5 (-324) = .finite false 1 (-1074) := by decide +kernel
example : ofDecimal true 25 (-1) = .finite true (5 * power 2 50) (-51) := by decide

end Binary64

end StorageCompat
