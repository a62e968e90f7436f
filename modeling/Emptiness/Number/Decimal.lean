import Emptiness.Number.Binary64

/-!
# Decimal numbers

A decimal number keeps the digits that it was given, trailing zeros included. Two decimals are the same number
exactly when they agree in lowest terms, and since every finite double precision number is a decimal too, the
same test compares numbers of both kinds.
-/

namespace Emptiness.Number

/-- A decimal number; `finite negative c e` is `c * 10 ^ e` with its sign. -/
inductive Decimal where
  | nan (negative signaling : Bool) (payload : List Char)
  | infinite (negative : Bool)
  | finite (negative : Bool) (coefficient : Nat) (exponent : Int)
  deriving DecidableEq

namespace Decimal

/-- Equal to zero, whatever the sign and the exponent. -/
def isZero : Decimal → Bool
  | .finite _ coefficient _ => coefficient == 0
  | _ => false

/-- Move the zeros at the end of a positive coefficient into the exponent. -/
def lowestFrom (coefficient : Nat) (exponent : Int) : Nat × Int :=
  if h : coefficient ≠ 0 ∧ coefficient % 10 = 0 then lowestFrom (coefficient / 10) (exponent + 1)
  else (coefficient, exponent)
  termination_by coefficient
  decreasing_by omega

/-- The number in lowest terms: no zero at the end of the coefficient, and a single zero. -/
def lowest : Decimal → Decimal
  | .finite negative coefficient exponent =>
    if coefficient = 0 then .finite false 0 0
    else
      let (c, e) := lowestFrom coefficient exponent
      .finite negative c e
  | other => other

/-- The decimal that equals an integer. -/
def ofInt (i : Int) : Decimal :=
  .finite (decide (i < 0)) i.natAbs 0

/-- The decimal that equals a double precision number. -/
def ofBinary64 : Binary64 → Decimal
  | .nan => .nan false false []
  | .infinite negative => .infinite negative
  | .finite negative significand exponent =>
    match exponent with
    | .ofNat k => .finite negative (significand <<< k) 0
    | .negSucc k => .finite negative (significand * Nat.pow 5 (k + 1)) (.negSucc k)

/-- Equality of numbers; what is not a number equals nothing. -/
def same (a b : Decimal) : Bool :=
  match a, b with
  | .nan .., _ => false
  | _, .nan .. => false
  | a, b => a.lowest == b.lowest

/-- Significant digits, without a sign, with the exponent written only where the digits alone do not say it. -/
def magnitudeText (coefficient : Nat) (exponent : Int) : List Char :=
  let shown := digits coefficient
  let left := exponent + shown.length
  let point := if exponent ≤ 0 && -6 < left then left else 1
  let places := point.toNat
  let body :=
    if point ≤ 0 then '0' :: '.' :: List.replicate (-point).toNat '0' ++ shown
    else if shown.length ≤ places then shown ++ List.replicate (places - shown.length) '0'
    else shown.take places ++ '.' :: shown.drop places
  let tail :=
    if left = point then []
    else 'E' :: (if left < point then '-' else '+') :: digits (left - point).natAbs
  body ++ tail

/-- The text of a decimal number. -/
def text (d : Decimal) : String :=
  let signed (negative : Bool) (shown : List Char) := String.ofList (if negative then '-' :: shown else shown)
  match d with
  | .nan negative signaling payload => signed negative ((if signaling then "sNaN" else "NaN").toList ++ payload)
  | .infinite negative => signed negative "Infinity".toList
  | .finite negative coefficient exponent => signed negative (magnitudeText coefficient exponent)

end Decimal

end Emptiness.Number
