/-!
# Splitting

A text is split at every separator. There is always at least one part, and parts may be empty.
-/

namespace Emptiness.Text

/-- The parts of a text between its separators. -/
def splitWhere (isSeparator : Char → Bool) : List Char → List (List Char)
  | [] => [[]]
  | c :: rest =>
    if isSeparator c then [] :: splitWhere isSeparator rest
    else match splitWhere isSeparator rest with
      | part :: more => (c :: part) :: more
      | [] => [[c]]

/-- The parts of a text between the occurrences of a character. -/
def splitAt (separator : Char) (text : List Char) : List (List Char) :=
  splitWhere (· == separator) text

end Emptiness.Text
