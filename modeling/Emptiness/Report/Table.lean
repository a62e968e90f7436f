import Emptiness.Number.Binary64
import Emptiness.Text.Markup
import Emptiness.Text.Wrap

/-!
# Tables in print

A table has a title, a line of headers and rows of cells, drawn with box characters. Each column is as wide as its
widest line, with one blank on either side; a cell of several lines makes its row as high as it needs. A table that
would be wider than a printed line may be is narrowed at its widest columns.
-/

namespace Emptiness.Report

/-- A column of a table: its header, and whether its cells stand at the right. -/
structure Column where
  header : String
  atRight : Bool

/-- A table to be printed. -/
structure Table where
  title : String
  columns : List Column
  rows : List (List String)

/-- The cells that a printed line may take. -/
def lineWidth : Nat := 2000

/-- A character that ends a line where the width of a text is measured. -/
def endsLine (c : Char) : Bool :=
  c = '\n' || ('\x1c' ≤ c && c ≤ '\x1e') || c = '\u0085' || c = '\u2028' || c = '\u2029'

/-- The cells that the widest line of a text takes. -/
def measure (text : List Char) : Nat :=
  ((Text.splitWhere endsLine text).map Text.cells).foldl max 0

/-- Blanks. -/
def blanks (count : Nat) : List Char :=
  List.replicate count ' '

/-- A line of a cell, filled up to the width of its column. -/
def fitLine (width : Nat) (atRight : Bool) (line : List Char) : List Char :=
  let space := blanks (width - Text.cells line)
  if atRight then space ++ line else line ++ space

/-- Parts with a separator between them. -/
def joinWith (separator : Char) : List (List Char) → List Char
  | [] => []
  | [part] => part
  | part :: rest => part ++ separator :: joinWith separator rest

/-- A horizontal border. -/
def border (left line joint right : Char) (widths : List Nat) : List Char :=
  left :: joinWith joint (widths.map fun width => List.replicate (width + 2) line) ++ [right]

/-- The lines of a row, between vertical borders. -/
def rowLines (edge : Char) (columns : List (Nat × Bool)) (row : List (List Char)) : List (List Char) :=
  let wrapped := (columns.zip row).map fun (column, text) => (column, Text.wrap .cut column.1 text)
  let height := (wrapped.map fun (_, lines) => lines.length).foldl max 1
  (List.range height).map fun place =>
    let parts := wrapped.map fun ((width, atRight), lines) =>
      ' ' :: fitLine width atRight (lines.getD place []) ++ [' ']
    edge :: joinWith edge parts ++ [edge]

/-- A title in the middle of the width of its table. -/
def centred (width : Nat) (title : List Char) : List Char :=
  let space := width - Text.cells title
  blanks (space / 2) ++ title ++ blanks (space - space / 2)

/-- Take `excess` cells away from the columns that are as wide as the widest, in equal shares of at most `most`
cells each; `sharers` of them are left. -/
def shareExcess (widest most excess sharers : Nat) : List Nat → List Nat
  | [] => []
  | width :: rest =>
    if width = widest then
      let share := min most (Number.roundQuotient excess sharers)
      (width - share) :: shareExcess widest most (excess - share) (sharers - 1) rest
    else width :: shareExcess widest most excess sharers rest

/-- Narrow the widest columns, down to the next widest ones at a time, until all of them together take at most
`room` cells. The widest become as wide as others each time, so as many rounds as there are columns are enough. -/
def narrow (room : Nat) (widths : List Nat) : Nat → List Nat
  | 0 => widths
  | rounds + 1 =>
    let excess := widths.foldl (· + ·) 0 - room
    let widest := widths.foldl max 0
    let next := (widths.filter (· != widest)).foldl max 0
    if excess = 0 || widest = next then widths
    else narrow room (shareExcess widest (min excess (widest - next)) excess (widths.count widest) widths) rounds

/-- The widths of the columns, from the widths of their widest lines: the blanks on either side and the borders
between the columns count too. -/
def fitWidths (natural : List Nat) : List Nat :=
  let room := lineWidth - (natural.length + 1)
  let padded := natural.map fun width => min (width + 2) room
  (narrow room padded (natural.length + 1)).map (· - 2)

/-- The lines of a printed table. -/
def Table.lines (table : Table) : List (List Char) :=
  let headers := table.columns.map fun column => Text.printed column.header
  let rows := table.rows.map fun row => row.map Text.printed
  let widths := fitWidths ((List.range table.columns.length).map fun place =>
    ((headers :: rows).map fun row => measure (row.getD place [])).foldl max 0)
  let columns := widths.zip (table.columns.map (·.atRight))
  let total := widths.foldl (fun total width => total + width + 3) 1
  centred total (Text.printed table.title)
    :: border '┏' '━' '┳' '┓' widths
    :: rowLines '┃' columns headers
    ++ border '┡' '━' '╇' '┩' widths
    :: rows.flatMap (rowLines '│' columns)
    ++ [border '└' '─' '┴' '┘' widths]

/-- Lines as they are printed. -/
def linesText (lines : List (List Char)) : String :=
  String.ofList (lines.flatMap fun line => line ++ ['\n'])

end Emptiness.Report
