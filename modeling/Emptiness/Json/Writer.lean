import Emptiness.Json.Basic

/-!
# Writing JSON

A document is written over several lines, two blanks deeper at each level, and in ASCII only: everything else is
escaped by its UTF-16 code units. Empty arrays and objects stay on one line.
-/

namespace Emptiness.Json

/-- The UTF-16 code units of a character. -/
def unitsOfChar (c : Char) : List Nat :=
  if c.toNat < 0x10000 then [c.toNat]
  else [0xd800 + (c.toNat - 0x10000) / 0x400, 0xdc00 + (c.toNat - 0x10000) % 0x400]

/-- The escape of a code unit by four hexadecimal digits. -/
def unitEscape (unit : Nat) : List Char :=
  ['\\', 'u', Nat.digitChar (unit / 0x1000 % 16), Nat.digitChar (unit / 0x100 % 16),
    Nat.digitChar (unit / 0x10 % 16), Nat.digitChar (unit % 16)]

/-- The letter that escapes a character. -/
def letterEscape? (c : Char) : Option Char :=
  if c = '"' || c = '\\' then some c
  else if c = '\n' then some 'n'
  else if c = '\r' then some 'r'
  else if c = '\t' then some 't'
  else if c = '\x0c' then some 'f'
  else if c = '\x08' then some 'b'
  else none

/-- A character as it is written between quotes. -/
def writeChar (c : Char) : List Char :=
  match letterEscape? c with
  | some letter => ['\\', letter]
  | none =>
    if 0x20 ≤ c.toNat ∧ c.toNat < 0x7f then [c] else (unitsOfChar c).flatMap unitEscape

/-- A code point as it is written between quotes. -/
def writePoint : CodePoint → List Char
  | .scalar c => writeChar c
  | half => unitEscape half.toNat

/-- A text between quotes. -/
def writeText (s : Text) : List Char :=
  '"' :: s.flatMap writePoint ++ ['"']

/-- A number that need not be whole. -/
def writeFloat : Number.Binary64 → List Char
  | .nan => "NaN".toList
  | .infinite negative => if negative then "-Infinity".toList else "Infinity".toList
  | x => x.text.toList

/-- The beginning of a line at a depth. -/
def newLine (depth : Nat) : List Char :=
  '\n' :: List.replicate (2 * depth) ' '

mutual

/-- A document at a depth. -/
def write (depth : Nat) : Json → List Char
  | .null => "null".toList
  | .bool b => if b then "true".toList else "false".toList
  | .int i => Number.numeral i
  | .float x => writeFloat x
  | .text s => writeText s
  | .array [] => ['[', ']']
  | .array (item :: rest) =>
    '[' :: newLine (depth + 1) ++ write (depth + 1) item ++ writeItems (depth + 1) rest ++ newLine depth ++ [']']
  | .object [] => ['\x7b', '\x7d']
  | .object ((name, item) :: rest) =>
    '\x7b' :: newLine (depth + 1) ++ writeText name ++ ':' :: ' ' :: write (depth + 1) item ++
      writeMembers (depth + 1) rest ++ newLine depth ++ ['\x7d']

/-- The items of an array after the first one. -/
def writeItems (depth : Nat) : List Json → List Char
  | [] => []
  | item :: rest => ',' :: newLine depth ++ write depth item ++ writeItems depth rest

/-- The members of an object after the first one. -/
def writeMembers (depth : Nat) : List (Text × Json) → List Char
  | [] => []
  | (name, item) :: rest =>
    ',' :: newLine depth ++ writeText name ++ ':' :: ' ' :: write depth item ++ writeMembers depth rest

end

/-- The text of a document. -/
def render (document : Json) : String :=
  String.ofList (write 0 document)

end Emptiness.Json
