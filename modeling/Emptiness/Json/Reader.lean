import Emptiness.Json.Basic

/-!
# Reading JSON

A reader by recursive descent over characters. It knows one dialect: blanks are space, tab, line feed and
carriage return; `NaN`, `Infinity` and `-Infinity` are numbers; a control character may not stand in a text; the
last of several members with one name counts. The only failure beside a malformed text is a whole number with too
many digits. Every call is given fuel, and twice the length of the text is always enough.
-/

namespace Emptiness.Json

/-- Why a text is not read as a document. -/
inductive ReadFault where
  | malformed
  | numeralTooLong (digits : Nat)
  deriving DecidableEq, Repr

/-- A character that may stand between the parts of a document. -/
def isSpace (c : Char) : Bool :=
  c = ' ' || c = '\t' || c = '\n' || c = '\r'

/-- The text after the blanks that it begins with. -/
def skipSpace (source : List Char) : List Char :=
  source.dropWhile isSpace

/-- The text after a word that it begins with. -/
def after? : List Char → List Char → Option (List Char)
  | [], source => some source
  | c :: word, d :: source => if c = d then after? word source else none
  | _ :: _, [] => none

/-- The number that a hexadecimal digit stands for. -/
def hexValue? (c : Char) : Option Nat :=
  if '0' ≤ c ∧ c ≤ '9' then some (c.toNat - '0'.toNat)
  else if 'a' ≤ c ∧ c ≤ 'f' then some (c.toNat - 'a'.toNat + 10)
  else if 'A' ≤ c ∧ c ≤ 'F' then some (c.toNat - 'A'.toNat + 10)
  else none

/-- The number that four hexadecimal digits stand for. -/
def hexUnit? (a b c d : Char) : Option Nat := do
  let a ← hexValue? a
  let b ← hexValue? b
  let c ← hexValue? c
  let d ← hexValue? d
  return ((a * 16 + b) * 16 + c) * 16 + d

/-- The code unit that an escape by a single letter stands for. -/
def letterUnit? (c : Char) : Option Nat :=
  if c = '"' || c = '\\' || c = '/' then some c.toNat
  else if c = 'b' then some 0x08
  else if c = 'f' then some 0x0c
  else if c = 'n' then some 0x0a
  else if c = 'r' then some 0x0d
  else if c = 't' then some 0x09
  else none

/-- The code units of a text up to its closing quote, and what follows the quote. -/
def readUnits : List Char → Option (List Nat × List Char)
  | [] => none
  | c :: rest =>
    if c = '"' then some ([], rest)
    else if c = '\\' then
      match rest with
      | 'u' :: a :: b :: c :: d :: more =>
        match hexUnit? a b c d with
        | some unit => (readUnits more).map fun (units, tail) => (unit :: units, tail)
        | none => none
      | letter :: more =>
        match letterUnit? letter with
        | some unit => (readUnits more).map fun (units, tail) => (unit :: units, tail)
        | none => none
      | [] => none
    else if c.toNat < 0x20 then none
    else (readUnits rest).map fun (units, tail) => (c.toNat :: units, tail)

/-- The first half of a surrogate pair. -/
def isHigh (unit : Nat) : Bool :=
  0xd800 ≤ unit && unit < 0xdc00

/-- The second half of a surrogate pair. -/
def isLow (unit : Nat) : Bool :=
  0xdc00 ≤ unit && unit < 0xe000

/-- The code point of a code unit by itself. -/
def pointOfUnit (unit : Nat) : CodePoint :=
  if isHigh unit || isLow unit then .half (Fin.ofNat 0x800 (unit - 0xd800)) else .scalar (Char.ofNat unit)

/-- The text of a run of code units, in which surrogate pairs are one character and half a pair stays what it is. -/
def joinUnits : List Nat → Text
  | [] => []
  | [unit] => [pointOfUnit unit]
  | high :: low :: rest =>
    if isHigh high && isLow low then
      .scalar (Char.ofNat (0x10000 + (high - 0xd800) * 0x400 + (low - 0xdc00))) :: joinUnits rest
    else pointOfUnit high :: joinUnits (low :: rest)

/-- The text up to its closing quote, and what follows the quote. -/
def readText (source : List Char) : Except ReadFault (Text × List Char) :=
  match readUnits source with
  | some (units, rest) => .ok (joinUnits units, rest)
  | none => .error .malformed

/-- The digits before the point of a number: a single zero, or digits that do not begin with zero. -/
def readWhole? : List Char → Option (List Char × List Char)
  | '0' :: rest => some (['0'], rest)
  | source =>
    let whole := source.takeWhile Char.isDigit
    if whole.isEmpty then none else some (whole, source.dropWhile Char.isDigit)

/-- The digits after the point of a number, if there is a point with digits after it. -/
def readFraction : List Char → List Char × List Char
  | '.' :: rest =>
    let fraction := rest.takeWhile Char.isDigit
    if fraction.isEmpty then ([], '.' :: rest) else (fraction, rest.dropWhile Char.isDigit)
  | source => ([], source)

/-- The exponent of a number, if there is a mark with digits after it. -/
def readExponent : List Char → Option Int × List Char
  | [] => (none, [])
  | mark :: rest =>
    if mark = 'e' || mark = 'E' then
      let (negative, unsigned) := Number.splitSign rest
      let shown := unsigned.takeWhile Char.isDigit
      if shown.isEmpty then (none, mark :: rest)
      else
        let n : Int := Number.ofDigits shown
        (some (if negative then -n else n), unsigned.dropWhile Char.isDigit)
    else (none, mark :: rest)

/-- The minus sign before a number, if there is one. -/
def readMinus : List Char → Bool × List Char
  | '-' :: rest => (true, rest)
  | source => (false, source)

/-- A number at the beginning of a text, and what follows it. -/
def readNumber (source : List Char) : Except ReadFault (Json × List Char) :=
  let (negative, unsigned) := readMinus source
  match readWhole? unsigned with
  | none => .error .malformed
  | some (whole, rest) =>
    let (fraction, rest) := readFraction rest
    let (exponent, rest) := readExponent rest
    if fraction.isEmpty && exponent.isNone then
      if Number.digitLimit < whole.length then .error (.numeralTooLong whole.length)
      else
        let n : Int := Number.ofDigits whole
        .ok (.int (if negative then -n else n), rest)
    else
      let coefficient := Number.ofDigits (whole ++ fraction)
      .ok (.float (.ofDecimal negative coefficient (exponent.getD 0 - fraction.length)), rest)

/-- The words that are documents by themselves. -/
def words : List (List Char × Json) :=
  [("null".toList, .null), ("true".toList, .bool true), ("false".toList, .bool false),
    ("NaN".toList, .float .nan), ("Infinity".toList, .float (.infinite false)),
    ("-Infinity".toList, .float (.infinite true))]

/-- A word or a number at the beginning of a text, and what follows it. -/
def readAtom (source : List Char) : Except ReadFault (Json × List Char) :=
  match words.findSome? fun (word, item) => (after? word source).map fun rest => (item, rest) with
  | some found => .ok found
  | none => readNumber source

mutual

/-- A document at the beginning of a text, and what follows it. -/
def readItem : Nat → List Char → Except ReadFault (Json × List Char)
  | 0, _ => .error .malformed
  | fuel + 1, source =>
    match source with
    | '"' :: rest => (readText rest).map fun (s, tail) => (.text s, tail)
    | '[' :: rest =>
      match skipSpace rest with
      | ']' :: tail => .ok (.array [], tail)
      | inside => (readItems fuel inside).map fun (items, tail) => (.array items, tail)
    | '\x7b' :: rest =>
      match skipSpace rest with
      | '\x7d' :: tail => .ok (.object [], tail)
      | inside => (readMembers fuel inside).map fun (members, tail) => (ofMembers members, tail)
    | _ => readAtom source

/-- The items of an array from the first one on, and what follows the bracket. -/
def readItems : Nat → List Char → Except ReadFault (List Json × List Char)
  | 0, _ => .error .malformed
  | fuel + 1, source => do
    let (item, rest) ← readItem fuel source
    match skipSpace rest with
    | ']' :: tail => return ([item], tail)
    | ',' :: more =>
      let (items, tail) ← readItems fuel (skipSpace more)
      return (item :: items, tail)
    | _ => throw .malformed

/-- The members of an object from the first one on, and what follows the brace. -/
def readMembers : Nat → List Char → Except ReadFault (List (Text × Json) × List Char)
  | 0, _ => .error .malformed
  | fuel + 1, source => do
    match source with
    | '"' :: quoted =>
      let (name, rest) ← readText quoted
      match skipSpace rest with
      | ':' :: more =>
        let (item, rest) ← readItem fuel (skipSpace more)
        match skipSpace rest with
        | '\x7d' :: tail => return ([(name, item)], tail)
        | ',' :: more =>
          let (members, tail) ← readMembers fuel (skipSpace more)
          return ((name, item) :: members, tail)
        | _ => throw .malformed
      | _ => throw .malformed
    | _ => throw .malformed

end

/-- The document that a text is. -/
def read (source : String) : Except ReadFault Json := do
  let inside := skipSpace source.toList
  let (item, rest) ← readItem (2 * inside.length + 2) inside
  if (skipSpace rest).isEmpty then return item else throw .malformed

end Emptiness.Json
