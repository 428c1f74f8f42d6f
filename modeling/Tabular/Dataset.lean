import Tabular.Clause
import Tabular.Csv.Sheet

/-! # Datasets and views

A dataset is a sheet with a key to select it by and the names that are shown to users.  A view of a
dataset has some of its rows: those that pass a clause and, if there is a search term, have the term
in some cell. -/

namespace Tabular

/-! ### Datasets -/

/-- What is told about a dataset. -/
structure Info where
  name : Text
  description : Option Text
  emoji : Option Text
  primaryKey : Option Text
  deriving DecidableEq, Repr

/-- A named table. -/
structure Dataset where
  key : Text
  info : Info
  headers : List Text
  rows : List Row

namespace Dataset

/-- The dataset of a sheet. -/
def ofSheet (key : Text) (info : Info) (sheet : Csv.Sheet) : Dataset :=
  ⟨key, info, sheet.headers, sheet.rows⟩

/-- The name that is shown; the key if there is no name. -/
def displayName (d : Dataset) : Text :=
  if d.info.name.isEmpty then d.key else d.info.name

/-- The name behind the emoji, if there is one. -/
def title (d : Dataset) : Text :=
  match d.info.emoji with
  | some emoji => emoji ++ ' ' :: d.displayName
  | none => d.displayName

end Dataset

/-- Some of the rows of a dataset. -/
structure View where
  dataset : Dataset
  rows : List Row

namespace View

/-- The number of rows of the dataset. -/
def total (v : View) : Nat :=
  v.dataset.rows.length

/-- The number of rows of the view. -/
def shown (v : View) : Nat :=
  v.rows.length

/-- The cells of a row in the order of the columns. -/
def cells (v : View) (row : Row) : List Text :=
  v.dataset.headers.map fun header => (row.get? header).getD []

end View

/-! ### Searching -/

/-- Whether some cell of a row has a term in it, whatever the letter case; the white space around
the term does not count. -/
def Row.matchesTerm (term : Text) (row : Row) : Bool :=
  row.cells.any fun cell => Text.mentions cell.2 (Text.trim term)

/-- The rows that a search keeps; a blank term keeps all of them. -/
def search (rows : List Row) (term : Text) : List Row :=
  if Text.isBlank term then rows else rows.filter (Row.matchesTerm term)

/-! ### Selecting datasets and rows -/

/-- The view that a clause text and a search term leave of a dataset. -/
def Dataset.view (clause : Text) (term : Option Text) (d : Dataset) : Except FilterError View := do
  let rows ← Clause.filter d.rows clause
  return ⟨d, term.elim rows (search rows)⟩

/-- The views of several datasets. -/
def Dataset.views (clause : Text) (term : Option Text) :
    List Dataset → Except FilterError (List View)
  | [] => .ok []
  | d :: rest => do
    let v ← d.view clause term
    return v :: (← views clause term rest)

/-- What is said about a key that no dataset has. -/
def Dataset.unknownMessage (datasets : List Dataset) (key : Text) : String :=
  let known := Text.joinWith [',', ' '] (datasets.map Dataset.key)
  s!"CLI: Unknown dataset '{String.ofList key}' (known: {String.ofList known})"

/-- The place of the dataset with a key, or of the first one. -/
def Dataset.select? (datasets : List Dataset) : Option Text → Option Nat
  | none => some 0
  | some key => datasets.findIdx? (·.key = key)

end Tabular
