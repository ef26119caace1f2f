import RequestSuite.Text.Lines
import RequestSuite.Text.Width

/-! Tables drawn with lines. A column is as wide as the widest line in it, measured as a terminal
shows it, and a row as high as its highest cell. -/
namespace RequestSuite.CommandLine

abbrev Cell := List (List Char)

structure Table where
  header : List Cell
  rows : List (List Cell)

structure Rule where
  left : Char
  fill : Char
  joint : Char
  right : Char

namespace Table

def top : Rule := ⟨'┌', '─', '┬', '┐'⟩

def belowHeader : Rule := ⟨'╞', '═', '╪', '╡'⟩

def betweenRows : Rule := ⟨'├', '╌', '┼', '┤'⟩

def bottom : Rule := ⟨'└', '─', '┴', '┘'⟩

def cell (text : String) : Cell := Text.lines text.toList

def ofTexts (header : List String) (rows : List (List String)) : Table :=
  ⟨header.map cell, rows.map (·.map cell)⟩

def cellWidth (cell : Cell) : Nat := (cell.map Text.width).foldl max 0

def widen (widths : List Nat) (row : List Cell) : List Nat :=
  List.zipWith (fun width cell => max width (cellWidth cell)) widths row

def widths (table : Table) : List Nat :=
  table.rows.foldl widen (table.header.map cellWidth)

def rule (rule : Rule) (widths : List Nat) : List Char :=
  rule.left ::
    Text.joinWith [rule.joint] (widths.map fun width => List.replicate (width + 2) rule.fill) ++
    [rule.right]

def padded (width : Nat) (line : List Char) : List Char :=
  ' ' :: line ++ List.replicate (width - Text.width line) ' ' ++ [' ']

def height (row : List Cell) : Nat := (row.map List.length).foldl max 0

def column (height width : Nat) (cell : Cell) : List (List Char) :=
  cell.map (padded width) ++ List.replicate (height - cell.length) (padded width [])

def rowLine (parts : List (List Char)) : List Char := '│' :: Text.joinWith ['┆'] parts ++ ['│']

def rowLines (widths : List Nat) (row : List Cell) : List (List Char) :=
  let columns := List.zipWith (column (height row)) widths row
  (columns.foldr (List.zipWith (· :: ·)) (List.replicate (height row) [])).map rowLine

def bodyLines (widths : List Nat) : List (List Cell) → List (List Char)
  | [] => []
  | [row] => rowLines widths row
  | row :: rest => rowLines widths row ++ rule betweenRows widths :: bodyLines widths rest

def lines (table : Table) : List (List Char) :=
  let widths := table.widths
  rule top widths :: rowLines widths table.header ++
    rule belowHeader widths :: bodyLines widths table.rows ++ [rule bottom widths]

def text (table : Table) : String := String.ofList (Text.joinWith ['\n'] table.lines)

end Table

end RequestSuite.CommandLine
