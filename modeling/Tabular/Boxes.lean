import Tabular.Unicode.Width

/-! # Tables with borders

Columns are as wide as their widest line, and at least one letter.  A cell with several lines makes
its row as high as it needs; the lines of the other cells are at the top. -/

namespace Tabular.Boxes

/-- The lines of a cell. -/
abbrev Lines := List Text

/-- The lines of a text. -/
def linesOf (t : Text) : Lines :=
  Text.cutAt '\n' t

/-- The letters that a cell needs. -/
def cellWidth (cell : Lines) : Nat :=
  cell.foldl (fun n line => max n (Unicode.width line)) 1

/-- The widths of the columns of some rows, which have the same number of cells. -/
def columnWidths : List (List Lines) → List Nat
  | [] => []
  | [row] => row.map cellWidth
  | row :: rows => (row.map cellWidth).zipWith max (columnWidths rows)

/-- The letters of a border: at its left end, along a column, between two columns and at its right
end. -/
structure Border where
  left : Char
  along : Char
  between : Char
  right : Char

/-- Above the first row. -/
def top : Border := ⟨'┌', '─', '┬', '┐'⟩

/-- Below the names of the columns. -/
def underHeader : Border := ⟨'╞', '═', '╪', '╡'⟩

/-- Between two rows. -/
def underRow : Border := ⟨'├', '╌', '┼', '┤'⟩

/-- Below the last row. -/
def bottom : Border := ⟨'└', '─', '┴', '┘'⟩

/-- A border over columns of these widths. -/
def Border.line (b : Border) (widths : List Nat) : Text :=
  b.left :: Text.joinWith [b.between] (widths.map fun n => List.replicate (n + 2) b.along) ++
    [b.right]

/-- A line of a cell, filled up with blanks to the width of its column. -/
def padded (width : Nat) (line : Text) : Text :=
  ' ' :: line ++ List.replicate (width - Unicode.width line + 1) ' '

/-- One line across a row. -/
def rowLine (widths : List Nat) (row : List Lines) (n : Nat) : Text :=
  '│' :: Text.joinWith ['┆'] (widths.zipWith (fun w cell => padded w (cell.getD n [])) row) ++
    ['│']

/-- The number of lines of a row. -/
def height (row : List Lines) : Nat :=
  row.foldl (fun n cell => max n cell.length) 0

/-- The lines across a row. -/
def rowLines (widths : List Nat) (row : List Lines) : List Text :=
  (List.range (height row)).map (rowLine widths row)

/-- The lines across some rows, with borders between them. -/
def bodyLines (widths : List Nat) : List (List Lines) → List Text
  | [] => []
  | [row] => rowLines widths row
  | row :: rows => rowLines widths row ++ underRow.line widths :: bodyLines widths rows

/-- A table with the names of its columns and its rows. -/
def table (header : List Text) (rows : List (List Text)) : Text :=
  let header := header.map linesOf
  let rows := rows.map (·.map linesOf)
  let widths := columnWidths (header :: rows)
  Text.joinWith ['\n'] <|
    top.line widths :: rowLines widths header ++ underHeader.line widths :: bodyLines widths rows ++
      [bottom.line widths]

end Tabular.Boxes
