import Emptiness.Text.Basic

/-!
# Substitution

Replacing a pattern in a text, from left to right and without overlap. What is put in is not searched again.
-/

namespace Emptiness.Text

/-- The pattern occurs in the text. -/
def occurs (pattern : Text) : Text → Bool
  | [] => pattern.isEmpty
  | point :: rest => pattern.isPrefixOf (point :: rest) || occurs pattern rest

/-- Replace the pattern in a text whose first `skipped` code points belong to an occurrence already replaced. -/
def replaceFrom (pattern replacement : Text) : Nat → Text → Text
  | _, [] => []
  | skipped + 1, _ :: rest => replaceFrom pattern replacement skipped rest
  | 0, point :: rest =>
    if pattern.isPrefixOf (point :: rest) then
      replacement ++ replaceFrom pattern replacement (pattern.length - 1) rest
    else point :: replaceFrom pattern replacement 0 rest

/-- Replace every occurrence of a pattern of at least one code point. -/
def replaceAll (pattern replacement text : Text) : Text :=
  replaceFrom pattern replacement 0 text

end Emptiness.Text
