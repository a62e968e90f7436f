/-!
# Texts

A text is a run of code points. Nearly every code point is a character. Those that are kept for the halves of surrogate
pairs are none, yet half a pair may stand in a text by itself. A string holds nothing but characters.
-/

namespace Emptiness

/-- A code point: a character, or half a surrogate pair at its place from U+D800 on. -/
inductive CodePoint where
  | scalar (c : Char)
  | half (place : Fin 0x800)
  deriving DecidableEq, Repr

namespace CodePoint

instance : Coe Char CodePoint := ⟨.scalar⟩

/-- The number of a code point. -/
def toNat : CodePoint → Nat
  | .scalar c => c.toNat
  | .half place => 0xd800 + place

/-- The character that a code point is, unless it is half a pair. -/
def char? : CodePoint → Option Char
  | .scalar c => some c
  | .half _ => none

end CodePoint

/-- A run of code points. -/
abbrev Text := List CodePoint

namespace Text

/-- The text of a string. -/
@[coe] def ofString (s : String) : Text :=
  s.toList.map .scalar

instance : Coe String Text := ⟨ofString⟩

/-- The string that a text is, unless it holds half a pair. -/
def string? (text : Text) : Option String :=
  (text.mapM CodePoint.char?).map String.ofList

end Text

end Emptiness
