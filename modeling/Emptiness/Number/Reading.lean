import Emptiness.Number.Decimal
import Emptiness.Text.Blank
import Emptiness.Text.DecimalDigit

/-!
# Reading numbers

Numbers as they are given from outside: blanks may surround them, their digits may be of any script, and underscores
may separate digits. A decimal number keeps every digit, so it is also refused where its exponent is out of range.
-/

namespace Emptiness.Number

/-- Read an exponent: a sign and at least one digit up to the end. -/
def readExponent? (text : List Char) : Option Int :=
  let (negative, shown) := splitSign text
  if shown.isEmpty || !shown.all Char.isDigit then none
  else some (if negative then -(ofDigits shown : Int) else ofDigits shown)

/-- Read digits with an optional point and an optional exponent up to the end. -/
def readMagnitude? (text : List Char) : Option (Nat × Int) :=
  let whole := text.takeWhile Char.isDigit
  let rest := text.dropWhile Char.isDigit
  let (fraction, rest) := match rest with
    | '.' :: more => (more.takeWhile Char.isDigit, more.dropWhile Char.isDigit)
    | _ => ([], rest)
  if whole.isEmpty && fraction.isEmpty then none
  else
    let coefficient := ofDigits (whole ++ fraction)
    match rest with
    | [] => some (coefficient, -(fraction.length : Int))
    | mark :: more =>
      if mark = 'e' || mark = 'E' then (readExponent? more).map fun e => (coefficient, e - fraction.length)
      else none

/-- A text of lower case letters is a name of infinity. -/
def isInfinityName (name : List Char) : Bool :=
  name = "inf".toList || name = "infinity".toList

/-- Drop underscores between two digits; `afterDigit` says that a digit stands before the text. -/
def joinDigits (afterDigit : Bool) : List Char → List Char
  | [] => []
  | c :: rest =>
    if c = '_' && afterDigit && (rest.head?.map Char.isDigit).getD false then joinDigits false rest
    else c :: joinDigits c.isDigit rest

/-- A blank that may surround a double precision number: any but the four information separators. -/
def isMargin (c : Char) : Bool :=
  Text.isBlank c && !(0x1c ≤ c.toNat && c.toNat ≤ 0x1f)

/-- Read a double precision number. -/
def Binary64.ofText? (text : String) : Option Binary64 :=
  let inner := Text.trim isMargin text.toList
  let (negative, shown) := splitSign (joinDigits false (Text.plainDigits inner))
  let name := shown.map Char.toLower
  if isInfinityName name then some (.infinite negative)
  else if name = "nan".toList then some .nan
  else (readMagnitude? shown).map fun (coefficient, exponent) => ofDecimal negative coefficient exponent

namespace Decimal

/-- Why a text is not read as a decimal number. -/
inductive ReadFault where
  | malformed
  | outOfRange
  deriving DecidableEq, Repr

/-- The largest exponent of the first digit of a decimal number. -/
def maxExponent : Int := 999999999999999999

/-- The smallest exponent of the last digit of a decimal number. -/
def minExponent : Int := -1999999999999999997

/-- The exponent of the last digit, and that of the first digit of a number other than zero, are in range. -/
def inRange (coefficient : Nat) (exponent : Int) : Bool :=
  let first := if coefficient = 0 then exponent else exponent + (digits coefficient).length - 1
  minExponent ≤ exponent && first ≤ maxExponent

/-- The digits that may follow the name of what is no number, without zeros in front. -/
def payload? (text : List Char) : Option (List Char) :=
  if text.all Char.isDigit then some (text.dropWhile (· = '0')) else none

/-- Read what is no number: its name and its digits. -/
def readNan? (negative : Bool) (shown : List Char) : Option Decimal :=
  let name := shown.map Char.toLower
  if "nan".toList.isPrefixOf name then (payload? (shown.drop 3)).map (.nan negative false)
  else if "snan".toList.isPrefixOf name then (payload? (shown.drop 4)).map (.nan negative true)
  else none

/-- Read a decimal number. -/
def ofText (text : String) : Except ReadFault Decimal :=
  let (negative, shown) := splitSign ((Text.plainDigits (Text.trim Text.isBlank text.toList)).filter (· != '_'))
  if isInfinityName (shown.map Char.toLower) then .ok (.infinite negative)
  else match readNan? negative shown with
    | some d => .ok d
    | none =>
      match readMagnitude? shown with
      | none => .error .malformed
      | some (coefficient, exponent) =>
        if inRange coefficient exponent then .ok (.finite negative coefficient exponent) else .error .outOfRange

end Decimal

end Emptiness.Number
