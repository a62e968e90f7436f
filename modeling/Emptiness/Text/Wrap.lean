import Emptiness.Text.Blank
import Emptiness.Text.CellWidth
import Emptiness.Text.Split

/-!
# Wrapping

Tabs become blanks, and a line that is too wide is broken before a word. A word that is wider than a whole line is
broken anywhere, or stands on a line that is cut short and ends with an ellipsis.
-/

namespace Emptiness.Text

/-- What becomes of a word that is wider than a whole line. -/
inductive Oversize where
  | broken
  | cut

/-- The words of a line, each with the blanks after it and the first also with those before it; `current` is the
word being read, in reverse, `inked` says that it has begun and `ended` that blanks follow it already. -/
def wordsFrom (current : List Char) (inked ended : Bool) : List Char → List (List Char)
  | [] => if inked then [current.reverse] else []
  | c :: rest =>
    if isBlank c then wordsFrom (c :: current) inked inked rest
    else if ended then current.reverse :: wordsFrom [c] true false rest
    else wordsFrom (c :: current) true false rest

/-- Blanks removed at the end. -/
def stripEnd (text : List Char) : List Char :=
  (text.reverse.dropWhile isBlank).reverse

/-- Pieces of a word that take at most `width` cells each; `current` is the piece being filled, in reverse. -/
def chopFrom (width : Nat) (current : List Char) (used : Nat) : List Char → List (List Char)
  | [] => [current.reverse]
  | c :: rest =>
    let size := cellsOfChar c
    if width < used + size then current.reverse :: chopFrom width [c] size rest
    else chopFrom width (c :: current) (used + size) rest

/-- Lines filled with words; `current` is the line being filled and `used` its cells. -/
def fillLines (oversize : Oversize) (width : Nat) (current : List Char) (used : Nat) :
    List (List Char) → List (List Char)
  | [] => [current]
  | word :: rest =>
    let size := cells (stripEnd word)
    if used + size ≤ width then fillLines oversize width (current ++ word) (used + cells word) rest
    else if size ≤ width then current :: fillLines oversize width word (cells word) rest
    else
      let pieces := match oversize with
        | .broken => chopFrom width [] 0 word
        | .cut => [word]
      let last := pieces.getLastD []
      let filled := if current.isEmpty then pieces.dropLast else current :: pieces.dropLast
      filled ++ fillLines oversize width last (cells last) rest

/-- Drop blanks at the end of a line as far as it has more than `width` characters. -/
def cropEnd (width : Nat) (line : List Char) : List Char :=
  line.take (max (min width line.length) (stripEnd line).length)

/-- The beginning of a text that takes `width` cells, looked for by halving between two places; a blank stands for
a character that would reach beyond. Beginnings that differ by characters without width are told apart by the places
at which the halving looks. -/
def takeCellsBetween (width : Nat) (text : List Char) (low high : Nat) : Nat → List Char
  | 0 => []
  | fuel + 1 =>
    let place := (low + high) / 2
    let before := text.take (place + 1)
    let size := cells before
    if size = width + 1 && cells (before.drop place) = 2 then before.take place ++ [' ']
    else if size = width then before
    else if width < size then takeCellsBetween width text low place fuel
    else takeCellsBetween width text place high fuel

/-- The beginning of a text that takes `width` cells. -/
def takeCells (width : Nat) (text : List Char) : List Char :=
  if width = 0 then [] else takeCellsBetween width text 0 text.length (text.length + 1)

/-- A line cut to `width` cells if it takes more. Where words are not broken, the last cell is an ellipsis. -/
def cutShort (oversize : Oversize) (width : Nat) (line : List Char) : List Char :=
  if cells line ≤ width then line
  else match oversize with
    | .broken => takeCells width line
    | .cut => takeCells (width - 1) line ++ ['…']

/-- The distance between two tab stops in cells. -/
def tabStop : Nat := 8

/-- Blanks up to the next tab stop in place of every tab, in a line of which `used` cells are taken. -/
def expandTabs (used : Nat) : List Char → List Char
  | [] => []
  | c :: rest =>
    if c = '\t' then
      let blanks := tabStop - used % tabStop
      List.replicate blanks ' ' ++ expandTabs (used + blanks) rest
    else c :: expandTabs (used + cellsOfChar c) rest

/-- The lines of a text, broken where they take more than `width` cells. -/
def wrap (oversize : Oversize) (width : Nat) (text : List Char) : List (List Char) :=
  (splitAt '\n' text).flatMap fun line =>
    let line := expandTabs 0 line
    let lines := match wordsFrom [] false false line with
      | [] => [line]
      | words => fillLines oversize width [] 0 words
    lines.map fun filled => cutShort oversize width (cropEnd width filled)

end Emptiness.Text
