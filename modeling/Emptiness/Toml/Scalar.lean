import Emptiness.Json.Reader
import Emptiness.Value.Basic

/-!
# TOML scalars

Keys, texts, numbers, dates and times as they stand in a TOML document, read from the front of a text. Each
reader answers what it has read and the text that follows.
-/

namespace Emptiness.Toml

/-- Why a text is not read as a document. -/
inductive ReadFault where
  | malformed
  | numeralTooLong (digits : Nat)
  deriving DecidableEq, Repr

/-- What an optional answer stands for where nothing else can be read. -/
def required {α : Type} : Option α → Except ReadFault α
  | some a => .ok a
  | none => .error .malformed

/-- A blank that may stand between the parts of a line. -/
def isBlank (c : Char) : Bool :=
  c = ' ' || c = '\t'

/-- A blank or the end of a line. -/
def isFiller (c : Char) : Bool :=
  isBlank c || c = '\n'

/-- The text after the blanks that it begins with. -/
def skipBlanks (source : List Char) : List Char :=
  source.dropWhile isBlank

/-- A control character that may not stand in comments and texts of one line. -/
def isForbidden (c : Char) : Bool :=
  (c.toNat < 0x20 && c != '\t') || c.toNat = 0x7f

/-- A control character that may not stand in texts of several lines. -/
def isForbiddenInLines (c : Char) : Bool :=
  isForbidden c && c != '\n'

/-- The text from the end of the comment on that it may begin with. -/
def skipComment (source : List Char) : Except ReadFault (List Char) :=
  match source with
  | '#' :: rest =>
    if (rest.takeWhile (· != '\n')).any isForbidden then .error .malformed
    else .ok (rest.dropWhile (· != '\n'))
  | _ => .ok source

/-- The text after blanks, ends of lines and comments; `inside` says that it begins within a comment. -/
def skipFiller (inside : Bool) : List Char → Except ReadFault (List Char)
  | [] => .ok []
  | c :: rest =>
    if inside then
      if c = '\n' then skipFiller false rest
      else if isForbidden c then .error .malformed
      else skipFiller true rest
    else if isFiller c then skipFiller false rest
    else if c = '#' then skipFiller true rest
    else .ok (c :: rest)

/-- The text between single quotes, after the opening one. -/
def readLiteral (source : List Char) : Except ReadFault (String × List Char) :=
  let content := source.takeWhile (· != '\'')
  match source.dropWhile (· != '\'') with
  | _ :: rest => if content.any isForbidden then .error .malformed else .ok (String.ofList content, rest)
  | [] => .error .malformed

/-- The text up to three single quotes. -/
def readLiteralLines : List Char → Option (List Char × List Char)
  | [] => none
  | '\'' :: '\'' :: '\'' :: rest => some ([], rest)
  | c :: rest =>
    if isForbiddenInLines c then none
    else (readLiteralLines rest).map fun (content, tail) => (c :: content, tail)

/-- The character that an escape by a single letter stands for. -/
def letterChar? (c : Char) : Option Char :=
  if c = 'b' then some '\x08'
  else if c = 't' then some '\t'
  else if c = 'n' then some '\n'
  else if c = 'f' then some '\x0c'
  else if c = 'r' then some '\r'
  else if c = '"' then some '"'
  else if c = '\\' then some '\\'
  else none

/-- The character with a code point, if there is one. -/
def scalarChar? (n : Nat) : Option Char :=
  if n < 0xd800 ∨ (0xdfff < n ∧ n < 0x110000) then some (Char.ofNat n) else none

/-- Where a text between double quotes is being read: in plain text, after a backslash at the end of a line, or
in the blank lines that follow it. -/
inductive BasicPlace where
  | plain
  | lineEnd
  | nextLine
  deriving DecidableEq

/-- The text up to its closing double quote, or up to three of them if it is one of several lines. -/
def readBasic (lines : Bool) (place : BasicPlace) : List Char → Option (List Char × List Char)
  | [] => none
  | c :: rest =>
    let keep (d : Char) (more : Option (List Char × List Char)) := more.map fun (content, tail) => (d :: content, tail)
    if place = .lineEnd then
      if isBlank c then readBasic lines .lineEnd rest
      else if c = '\n' then readBasic lines .nextLine rest
      else none
    else if place = .nextLine && isFiller c then readBasic lines .nextLine rest
    else if c = '"' then
      if lines then
        match rest with
        | '"' :: '"' :: more => some ([], more)
        | _ => keep '"' (readBasic lines .plain rest)
      else some ([], rest)
    else if c = '\\' then
      match rest with
      | 'u' :: h1 :: h2 :: h3 :: h4 :: more =>
        match (Json.hexUnit? h1 h2 h3 h4).bind scalarChar? with
        | some d => keep d (readBasic lines .plain more)
        | none => none
      | 'U' :: h1 :: h2 :: h3 :: h4 :: h5 :: h6 :: h7 :: h8 :: more =>
        match Json.hexUnit? h1 h2 h3 h4, Json.hexUnit? h5 h6 h7 h8 with
        | some high, some low =>
          match scalarChar? (high * 0x10000 + low) with
          | some d => keep d (readBasic lines .plain more)
          | none => none
        | _, _ => none
      | letter :: more =>
        if lines && letter = '\n' then readBasic lines .nextLine more
        else if lines && isBlank letter then readBasic lines .lineEnd more
        else match letterChar? letter with
          | some d => keep d (readBasic lines .plain more)
          | none => none
      | [] => none
    else if (if lines then isForbiddenInLines c else isForbidden c) then none
    else keep c (readBasic lines .plain rest)

/-- A text of several lines does not begin with the end of the line that it is opened on. -/
def skipFirstLineEnd : List Char → List Char
  | '\n' :: rest => rest
  | source => source

/-- Up to two quotes before the closing ones belong to a text of several lines. -/
def withExtraQuotes (quote : Char) (content rest : List Char) : String × List Char :=
  match rest with
  | a :: b :: more =>
    if a = quote then
      if b = quote then (String.ofList (content ++ [quote, quote]), more)
      else (String.ofList (content ++ [quote]), b :: more)
    else (String.ofList content, rest)
  | [a] => if a = quote then (String.ofList (content ++ [quote]), []) else (String.ofList content, rest)
  | [] => (String.ofList content, rest)

/-- A quoted text of any kind. -/
def readQuoted? : List Char → Option (Except ReadFault (String × List Char))
  | '"' :: '"' :: '"' :: rest =>
    some ((required (readBasic true .plain (skipFirstLineEnd rest))).map fun (content, tail) =>
      withExtraQuotes '"' content tail)
  | '"' :: rest =>
    some ((required (readBasic false .plain rest)).map fun (content, tail) => (String.ofList content, tail))
  | '\'' :: '\'' :: '\'' :: rest =>
    some ((required (readLiteralLines (skipFirstLineEnd rest))).map fun (content, tail) =>
      withExtraQuotes '\'' content tail)
  | '\'' :: rest => some (readLiteral rest)
  | _ => none

/-- A character of a key without quotes. -/
def isBare (c : Char) : Bool :=
  c.isAlphanum || c = '-' || c = '_'

/-- One part of a key. -/
def readKeyPart (source : List Char) : Except ReadFault (String × List Char) :=
  match source with
  | '\'' :: rest => readLiteral rest
  | '"' :: rest => (required (readBasic false .plain rest)).map fun (content, tail) => (String.ofList content, tail)
  | _ =>
    let bare := source.takeWhile isBare
    if bare.isEmpty then .error .malformed else .ok (String.ofList bare, source.dropWhile isBare)

/-- The parts of a key with dots between them; blanks may surround each dot and follow the key. -/
def readKey : Nat → List Char → Except ReadFault (List String × List Char)
  | 0, _ => .error .malformed
  | fuel + 1, source => do
    let (part, rest) ← readKeyPart source
    match skipBlanks rest with
    | '.' :: more =>
      let (parts, tail) ← readKey fuel (skipBlanks more)
      return (part :: parts, tail)
    | tail => return ([part], tail)

/-- Digits that may be separated by single underscores, after the first of them. -/
def readDigits (isDigit : Char → Bool) : List Char → List Char × List Char
  | [] => ([], [])
  | c :: rest =>
    if isDigit c then
      let (more, tail) := readDigits isDigit rest
      (c :: more, tail)
    else if c = '_' then
      match rest with
      | d :: tail =>
        if isDigit d then
          let (more, tail) := readDigits isDigit tail
          (d :: more, tail)
        else ([], c :: rest)
      | [] => ([], c :: rest)
    else ([], c :: rest)

/-- Digits of which the first is no underscore. -/
def readDigits? (isDigit : Char → Bool) : List Char → Option (List Char × List Char)
  | [] => none
  | c :: rest =>
    if isDigit c then
      let (more, tail) := readDigits isDigit rest
      some (c :: more, tail)
    else none

/-- The number that digits of a base stand for. -/
def valueInBase (base : Nat) (shown : List Char) : Nat :=
  shown.foldl (fun n c => n * base + (Json.hexValue? c).getD 0) 0

/-- A whole number in hexadecimal, octal or binary notation. -/
def readBased? : List Char → Option (Value × List Char)
  | '0' :: 'x' :: rest => number 16 (fun c => (Json.hexValue? c).isSome) rest
  | '0' :: 'o' :: rest => number 8 (fun c => '0' ≤ c && c ≤ '7') rest
  | '0' :: 'b' :: rest => number 2 (fun c => c = '0' || c = '1') rest
  | _ => none
where
  /-- The digits of a base. -/
  number (base : Nat) (isDigit : Char → Bool) (source : List Char) : Option (Value × List Char) :=
    (readDigits? isDigit source).map fun (shown, rest) => (.int (valueInBase base shown : Nat), rest)

/-- The digits before the point of a number. -/
def readWhole? : List Char → Option (List Char × List Char)
  | '0' :: rest => some (['0'], rest)
  | source => readDigits? Char.isDigit source

/-- The digits after the point of a number. -/
def readFraction (source : List Char) : List Char × List Char :=
  match source with
  | '.' :: rest => (readDigits? Char.isDigit rest).getD ([], source)
  | _ => ([], source)

/-- The exponent of a number. -/
def readExponent (source : List Char) : Option Int × List Char :=
  match source with
  | [] => (none, [])
  | mark :: rest =>
    if mark = 'e' || mark = 'E' then
      let (negative, unsigned) := Number.splitSign rest
      match readDigits? Char.isDigit unsigned with
      | some (shown, tail) =>
        let n : Int := Number.ofDigits shown
        (some (if negative then -n else n), tail)
      | none => (none, source)
    else (none, source)

/-- A number in decimal notation. -/
def readDecimal? (source : List Char) : Option (Except ReadFault (Value × List Char)) :=
  let (negative, unsigned) := Number.splitSign source
  (readWhole? unsigned).map fun (whole, rest) =>
    let (fraction, rest) := readFraction rest
    let (exponent, rest) := readExponent rest
    if fraction.isEmpty && exponent.isNone then
      if Number.digitLimit < whole.length then .error (.numeralTooLong whole.length)
      else
        let n : Int := Number.ofDigits whole
        .ok (.int (if negative then -n else n), rest)
    else
      let coefficient := Number.ofDigits (whole ++ fraction)
      .ok (.float (.ofDecimal negative coefficient (exponent.getD 0 - fraction.length)), rest)

/-- A number that is infinite or none. -/
def readSpecial? (source : List Char) : Option (Value × List Char) :=
  let (negative, unsigned) := Number.splitSign source
  match Json.after? "inf".toList unsigned with
  | some rest => some (.float (.infinite negative), rest)
  | none => (Json.after? "nan".toList unsigned).map fun rest => (.float .nan, rest)

/-- A truth value. -/
def readBool? (source : List Char) : Option (Value × List Char) :=
  match Json.after? "true".toList source with
  | some rest => some (.bool true, rest)
  | none => (Json.after? "false".toList source).map fun rest => (.bool false, rest)

/-- A number of exactly `count` digits between two bounds. -/
def readField? (count low high : Nat) (source : List Char) : Option (Nat × List Char) :=
  let shown := source.take count
  let n := Number.ofDigits shown
  if shown.length = count && shown.all Char.isDigit && low ≤ n && n ≤ high then some (n, source.drop count) else none

/-- The text after a character that it has to begin with. -/
def afterChar? (expected : Char) : List Char → Option (List Char)
  | c :: rest => if c = expected then some rest else none
  | [] => none

/-- Microseconds after a point; digits beyond the sixth are dropped. -/
def readMicroseconds (source : List Char) : Nat × List Char :=
  match source with
  | '.' :: rest =>
    let shown := rest.takeWhile Char.isDigit
    if shown.isEmpty then (0, source)
    else
      let kept := shown.take 6
      (Number.ofDigits (kept ++ List.replicate (6 - kept.length) '0'), rest.dropWhile Char.isDigit)
  | _ => (0, source)

/-- A time of day. -/
def readClock? (source : List Char) : Option (Calendar.Clock × List Char) := do
  let (hour, rest) ← readField? 2 0 23 source
  let rest ← afterChar? ':' rest
  let (minute, rest) ← readField? 2 0 59 rest
  let rest ← afterChar? ':' rest
  let (second, rest) ← readField? 2 0 59 rest
  let (microsecond, rest) := readMicroseconds rest
  return (⟨hour, minute, second, microsecond⟩, rest)

/-- A date, whether or not the calendar has it. -/
def readDate? (source : List Char) : Option (Calendar.Date × List Char) := do
  let (year, rest) ← readField? 4 0 9999 source
  let rest ← afterChar? '-' rest
  let (month, rest) ← readField? 2 1 12 rest
  let rest ← afterChar? '-' rest
  let (day, rest) ← readField? 2 1 31 rest
  return (⟨year, month, day⟩, rest)

/-- The distance from universal time in minutes. -/
def readOffset? (source : List Char) : Option (Int × List Char) :=
  match source with
  | [] => none
  | sign :: rest =>
    if sign = 'Z' || sign = 'z' then some (0, rest)
    else if sign = '+' || sign = '-' then do
      let (hour, rest) ← readField? 2 0 23 rest
      let rest ← afterChar? ':' rest
      let (minute, rest) ← readField? 2 0 59 rest
      let minutes : Int := 60 * hour + minute
      return (if sign = '-' then -minutes else minutes, rest)
    else none

/-- The time of day that may follow a date after a separator. -/
def readClockAfterDate? : List Char → Option (Calendar.Clock × List Char)
  | separator :: rest => if separator = 'T' || separator = 't' || separator = ' ' then readClock? rest else none
  | [] => none

/-- A date or a time of day, or both. -/
def readMoment? (source : List Char) : Option (Except ReadFault (Value × List Char)) :=
  match readDate? source with
  | some (date, rest) =>
    if !date.isValid then some (.error .malformed)
    else match readClockAfterDate? rest with
      | none => some (.ok (.moment (.date date), rest))
      | some (clock, rest) =>
        match readOffset? rest with
        | some (offset, rest) => some (.ok (.moment (.dateTime date clock (some offset)), rest))
        | none => some (.ok (.moment (.dateTime date clock none), rest))
  | none => (readClock? source).map fun (clock, rest) => .ok (.moment (.time clock), rest)

/-- A value that is neither an array nor an inline table. -/
def readScalar (source : List Char) : Except ReadFault (Value × List Char) :=
  match readQuoted? source with
  | some reading => reading.map fun (s, rest) => (.text s, rest)
  | none =>
    match readBool? source with
    | some found => .ok found
    | none =>
      match readMoment? source with
      | some reading => reading
      | none =>
        match readBased? source with
        | some found => .ok found
        | none =>
          match readDecimal? source with
          | some reading => reading
          | none => required (readSpecial? source)

end Emptiness.Toml
