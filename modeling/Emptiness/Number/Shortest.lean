import Emptiness.Number.Binary64

/-!
# Shortest decimal text

A finite double precision number is written with the fewest decimal digits that read back as the same number,
and of the candidates with that many digits the nearest is taken. Magnitudes from `1e-4` up to but not
including `1e16` are written positionally, all others with an exponent.
-/

namespace Emptiness.Number.Binary64

/-- The exponent of ten of the leading decimal digit of a positive quotient. -/
def leadingPlace (num den : Nat) : Int :=
  if den ≤ num then ((digits (num / den)).length : Int) - 1
  else
    let places := (digits (den / num)).length - 1
    if den ≤ num * Nat.pow 10 places then -(places : Int) else -(places : Int) - 1

/-- Of the two neighbours of a quotient on the grid of multiples of `10 ^ place`, the nearest that satisfies
the condition; a tie goes to the even one. -/
def nearestOnGrid? (readsBack : Nat → Bool) (place : Int) (num den : Nat) : Option Nat :=
  let scaled := scaleQuotient 10 place num den
  let low := scaled.1 / scaled.2
  let nearest := roundQuotient scaled.1 scaled.2
  let other := if nearest = low then low + 1 else low
  if readsBack nearest then some nearest else if readsBack other then some other else none

/-- The fewest decimal digits, from `count` up to `count + fuel` of them, that read back as the positive number
`significand * 2 ^ exponent`, and the place of the last one. -/
def shortestFrom (significand : Nat) (exponent : Int) (num den : Nat) (leading : Int) : Nat → Nat → Nat × Int
  | count, 0 => (roundQuotient num den, leading - count)
  | count, fuel + 1 =>
    let place := leading - count
    let readsBack := fun n => ofDecimal false n place == .finite false significand exponent
    match nearestOnGrid? readsBack place num den with
    | some n => (n, place)
    | none => shortestFrom significand exponent num den leading (count + 1) fuel

/-- The fewest decimal digits that read back as the positive number `significand * 2 ^ exponent`, and the place
of the last one. -/
def shortest (significand : Nat) (exponent : Int) : Nat × Int :=
  let quotient := scaleQuotient 2 (-exponent) significand 1
  shortestFrom significand exponent quotient.1 quotient.2 (leadingPlace quotient.1 quotient.2) 0 18

/-- Drop the zeros at the end of a run of digits. -/
def trimZeros (text : List Char) : List Char :=
  (text.reverse.dropWhile (· == '0')).reverse

/-- An exponent with its sign and at least two digits. -/
def exponentText (exponent : Int) : List Char :=
  let shown := digits exponent.natAbs
  (if exponent < 0 then '-' else '+') :: (if shown.length < 2 then '0' :: shown else shown)

/-- Significant digits with a decimal point `point` places after the first of them began. -/
def positional (text : List Char) (point : Int) : List Char :=
  let places := point.toNat
  if point ≤ 0 then '0' :: '.' :: List.replicate (-point).toNat '0' ++ text
  else if text.length ≤ places then text ++ List.replicate (places - text.length) '0' ++ ['.', '0']
  else text.take places ++ '.' :: text.drop places

/-- Significant digits with an exponent. -/
def scientific : List Char → Int → List Char
  | [], _ => []
  | [first], point => first :: 'e' :: exponentText (point - 1)
  | first :: rest, point => first :: '.' :: rest ++ 'e' :: exponentText (point - 1)

/-- The text of a magnitude. -/
def magnitudeText (significand : Nat) (exponent : Int) : List Char :=
  if significand = 0 then ['0', '.', '0']
  else
    let (n, place) := shortest significand exponent
    let all := digits n
    let point := (all.length : Int) + place
    let shown := trimZeros all
    if -4 < point && point ≤ 16 then positional shown point else scientific shown point

/-- The shortest text that reads back as the number. -/
def text : Binary64 → String
  | .nan => "nan"
  | .infinite negative => if negative then "-inf" else "inf"
  | .finite negative significand exponent =>
    let shown := magnitudeText significand exponent
    String.ofList (if negative then '-' :: shown else shown)

end Emptiness.Number.Binary64
