import Emptiness.Text.Basic
import Emptiness.Text.Printable

/-!
# Quoted text

Text and octets as literals. The quotes are single, unless the content holds a single quote and no double one.
The quote and the backslash are escaped by a backslash, tab, line feed and carriage return by their letters, and
what cannot be printed, half a surrogate pair included, by its hexadecimal code of two, four or eight digits.
-/

namespace Emptiness.Text

/-- The quote that the content calls for. -/
def quoteFor (content : Text) : Char :=
  if content.contains (.scalar '\'') && !content.contains (.scalar '"') then '"' else '\''

/-- A number in hexadecimal with at least `width` digits. -/
def hexDigits (width n : Nat) : List Char :=
  let shown := Nat.toDigits 16 n
  List.replicate (width - shown.length) '0' ++ shown

/-- The escapes that have a letter of their own. -/
def letterEscape? (c : Char) : Option Char :=
  if c = '\n' then some 'n'
  else if c = '\r' then some 'r'
  else if c = '\t' then some 't'
  else none

/-- The hexadecimal escape of a code point, as short as it can be. -/
def codeEscape (n : Nat) : List Char :=
  if n < 0x100 then '\\' :: 'x' :: hexDigits 2 n
  else if n < 0x10000 then '\\' :: 'u' :: hexDigits 4 n
  else '\\' :: 'U' :: hexDigits 8 n

/-- A code point as it stands between the quotes, given which characters show as themselves. -/
def escapeWith (shows : Char → Bool) (quote : Char) : CodePoint → List Char
  | .scalar c =>
    if c = quote || c = '\\' then ['\\', c]
    else match letterEscape? c with
      | some letter => ['\\', letter]
      | none => if shows c then [c] else codeEscape c.toNat
  | half => codeEscape half.toNat

/-- A literal, given which characters show as themselves and which quote is escaped between the quotes. -/
def quoteWith (shows : Char → Bool) (quote escaped : Char) (content : Text) : List Char :=
  quote :: content.flatMap (escapeWith shows escaped) ++ [quote]

/-- The literal of a text. -/
def quoted (text : Text) : String :=
  let quote := quoteFor text
  String.ofList (quoteWith isPrintable quote quote text)

/-- A visible ASCII character or a blank. -/
def isPlain (c : Char) : Bool :=
  0x20 ≤ c.toNat && c.toNat < 0x7f

/-- The literal of a run of octets. In one that can change, the single quote is escaped whatever the quotes. -/
def quotedOctets (isMutable : Bool) (octets : List UInt8) : String :=
  let content : Text := octets.map fun octet => .scalar (Char.ofNat octet.toNat)
  let quote := quoteFor content
  let shown := 'b' :: quoteWith isPlain quote (if isMutable then '\'' else quote) content
  String.ofList (if isMutable then "bytearray(".toList ++ shown ++ [')'] else shown)

end Emptiness.Text
