import Emptiness.Text.Basic
import Emptiness.Text.CodePoints

/-!
# Blank text

White space in the sense of Unicode together with the four information separators. Blank text is what the
`space` rule looks for, and the same class is removed around rule names, so both notions agree on every text.
-/

namespace Emptiness

namespace Text

/-- The code points that count as white space. -/
def blankCodePoints : CodePoints :=
  [(0x0009, 0x000d), (0x001c, 0x0020), (0x0085, 0x0085), (0x00a0, 0x00a0), (0x1680, 0x1680),
    (0x2000, 0x200a), (0x2028, 0x2029), (0x202f, 0x202f), (0x205f, 0x205f), (0x3000, 0x3000)]

/-- A white space character. -/
def isBlank (c : Char) : Bool :=
  blankCodePoints.has c

end Text

/-- A code point that is white space; half a pair is not. -/
def CodePoint.isBlank : CodePoint → Bool
  | .scalar c => Text.isBlank c
  | .half _ => false

namespace Text

/-- One or more code points, all of them white space. -/
def allBlank : Text → Bool
  | [] => false
  | point :: rest => point.isBlank && rest.all CodePoint.isBlank

/-- Remove what belongs to a class at both ends. -/
def trim {α : Type} (isMargin : α → Bool) (text : List α) : List α :=
  ((text.dropWhile isMargin).reverse.dropWhile isMargin).reverse

/-- Remove white space at both ends. -/
def strip (text : Text) : Text :=
  trim CodePoint.isBlank text

end Text

end Emptiness
