/-!
# Decimal numerals

Whole numbers are written in base ten without leading zeros. A numeral of more than `digitLimit` digits is
neither written nor read: converting it takes time quadratic in its length.
-/

namespace Emptiness.Number

/-- The longest numeral that is written or read. -/
def digitLimit : Nat := 4300

/-- The smallest number whose numeral is too long. -/
def numeralBound : Nat := Nat.pow 10 digitLimit

/-- The decimal digits of a number, the highest place first. -/
def digits (n : Nat) : List Char :=
  Nat.toDigits 10 n

/-- The number that a run of decimal digits stands for. -/
def ofDigits (text : List Char) : Nat :=
  Nat.ofDigitChars 10 text 0

/-- An optional sign and the text after it. -/
def splitSign : List Char → Bool × List Char
  | '-' :: rest => (true, rest)
  | '+' :: rest => (false, rest)
  | text => (false, text)

/-- The numeral of an integer, of any length. -/
def numeral : Int → List Char
  | .ofNat n => digits n
  | .negSucc n => '-' :: digits (n + 1)

/-- The numeral of an integer, if it is not too long. -/
def numeral? (i : Int) : Option String :=
  if i.natAbs < numeralBound then some (String.ofList (numeral i)) else none

/-- Reading the digits of a number gives it back. -/
theorem ofDigits_digits (n : Nat) : ofDigits (digits n) = n :=
  Nat.ofDigitChars_toDigits (by decide) (by decide)

/-- The numeral of a number is short exactly when the number is below the bound. -/
theorem length_digits_le_iff (n : Nat) : (digits n).length ≤ digitLimit ↔ n < numeralBound := by
  have hpos : 0 < digitLimit := by decide
  unfold digits numeralBound
  -- The bound is not to be evaluated: it has thousands of digits.
  generalize digitLimit = limit at hpos ⊢
  exact Nat.length_toDigits_le_iff (by decide) hpos

end Emptiness.Number
