import Tabular.Text

/-! # Rows

A row gives a cell for each of its columns.  The columns are distinct, which is a field of the
type; setting a cell of a column that is there replaces it. -/

namespace Tabular

/-- The cells of one record, each under the name of its column. -/
structure Row where
  cells : List (Text × Text)
  distinct : (cells.map Prod.fst).Nodup

namespace Row

/-! ### Setting cells -/

/-- The cells with one of them set. -/
def setCell (column value : Text) : List (Text × Text) → List (Text × Text)
  | [] => [(column, value)]
  | cell :: cells =>
    if cell.1 = column then (column, value) :: cells else cell :: setCell column value cells

theorem columns_setCell (column value : Text) (cells : List (Text × Text)) :
    (setCell column value cells).map Prod.fst =
      if column ∈ cells.map Prod.fst then cells.map Prod.fst
      else cells.map Prod.fst ++ [column] := by
  induction cells with
  | nil => simp [setCell]
  | cons cell cells ih =>
    simp only [setCell]
    by_cases h : cell.1 = column
    · simp [h]
    · have h' : column ≠ cell.1 := fun e => h e.symm
      simp only [h, if_false, List.map_cons, ih, List.mem_cons, h', false_or]
      split <;> simp

/-- A row without columns. -/
def empty : Row :=
  ⟨[], by simp⟩

/-- The row with the cell of one column set. -/
def set (row : Row) (column value : Text) : Row where
  cells := setCell column value row.cells
  distinct := by
    rw [columns_setCell]
    split
    · exact row.distinct
    · rename_i h
      refine List.nodup_append.2 ⟨row.distinct, by simp, ?_⟩
      intro a ha b hb
      simp only [List.mem_singleton] at hb
      rintro rfl
      exact h (hb ▸ ha)

/-- The row with these cells; of two cells of one column the later one counts. -/
def ofCells (cells : List (Text × Text)) : Row :=
  cells.foldl (fun row cell => row.set cell.1 cell.2) empty

/-! ### Looking at cells -/

/-- The cell of a column. -/
def get? (row : Row) (column : Text) : Option Text :=
  row.cells.lookup column

/-- The columns of a row. -/
def columns (row : Row) : List Text :=
  row.cells.map Prod.fst

theorem lookup_setCell (column value other : Text) (cells : List (Text × Text)) :
    (setCell column value cells).lookup other =
      if other = column then some value else cells.lookup other := by
  induction cells with
  | nil =>
    by_cases h : other = column
    · simp [setCell, h]
    · simp [setCell, List.lookup_cons, h, beq_eq_false_iff_ne.2 h]
  | cons cell cells ih =>
    obtain ⟨c, v⟩ := cell
    simp only [setCell]
    by_cases h : c = column
    · subst h
      by_cases h' : other = c
      · simp [h']
      · simp [List.lookup_cons, h', beq_eq_false_iff_ne.2 h']
    · by_cases h' : other = c
      · simp [h, h']
      · simp [List.lookup_cons, h, beq_eq_false_iff_ne.2 h', ih]

theorem get?_set (row : Row) (column value other : Text) :
    (row.set column value).get? other = if other = column then some value else row.get? other :=
  lookup_setCell column value other row.cells

theorem get?_empty (column : Text) : empty.get? column = none := rfl

end Row

instance : Inhabited Row :=
  ⟨Row.empty⟩

end Tabular
