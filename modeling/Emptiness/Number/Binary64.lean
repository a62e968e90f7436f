import Emptiness.Number.Numeral

/-!
# Double precision numbers

A finite number is a significand times a power of two. Decimal text is read to the nearest such number, and
ties go to the even significand; what lies beyond the largest number becomes infinite.
-/

namespace Emptiness.Number

/-- A double precision number; `finite negative m q` is `m * 2 ^ q` with its sign. -/
inductive Binary64 where
  | nan
  | infinite (negative : Bool)
  | finite (negative : Bool) (significand : Nat) (exponent : Int)
  deriving DecidableEq

/-- The quotient rounded to the nearest whole number, ties to the even one. -/
def roundQuotient (num den : Nat) : Nat :=
  let low := num / den
  let rest := num % den
  if den < 2 * rest || (2 * rest == den && low % 2 == 1) then low + 1 else low

/-- Numerator and denominator of a quotient divided by `base ^ exponent`. -/
def scaleQuotient (base : Nat) (exponent : Int) (num den : Nat) : Nat × Nat :=
  match exponent with
  | .ofNat k => (num, den * Nat.pow base k)
  | .negSucc k => (num * Nat.pow base (k + 1), den)

namespace Binary64

/-- Zero, with a sign. -/
def zero (negative : Bool) : Binary64 :=
  .finite negative 0 0

/-- Equal to zero, whatever the sign. -/
def isZero : Binary64 → Bool
  | .finite _ significand _ => significand == 0
  | _ => false

/-- Smallest exponent of a significand. -/
def minExponent : Int := -1074

/-- Largest exponent of a significand. -/
def maxExponent : Int := 971

/-- The number nearest to the quotient of two positive numbers. -/
def ofQuotient (negative : Bool) (num den : Nat) : Binary64 :=
  let guess := max ((num.log2 : Int) - (den.log2 : Int) - 53) minExponent
  let trial := scaleQuotient 2 guess num den
  let exponent := if trial.1 / trial.2 < 1 <<< 53 then guess else guess + 1
  let exact := scaleQuotient 2 exponent num den
  let significand := roundQuotient exact.1 exact.2
  let (significand, exponent) := if significand = 1 <<< 53 then (1 <<< 52, exponent + 1) else (significand, exponent)
  if significand = 0 then zero negative
  else if maxExponent < exponent then .infinite negative
  else .finite negative significand exponent

/-- The number nearest to `coefficient * 10 ^ exponent`. -/
def ofDecimal (negative : Bool) (coefficient : Nat) (exponent : Int) : Binary64 :=
  let magnitude := ((digits coefficient).length : Int) + exponent
  if coefficient = 0 || magnitude < -330 then zero negative
  else if 310 < magnitude then .infinite negative
  else
    let quotient := scaleQuotient 10 (-exponent) coefficient 1
    ofQuotient negative quotient.1 quotient.2

end Binary64

end Emptiness.Number
