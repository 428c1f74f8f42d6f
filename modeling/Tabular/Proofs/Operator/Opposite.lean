import Tabular.Proofs.View.Select

/-! # Opposite conditions

All operators but `STARTS WITH` and `ENDS WITH` have an opposite, which holds of a cell exactly where
they do not (`Operator.holds_opposite`).  For the comparisons of numbers this is so because every
text counts as some number: what is no number counts as zero, so any two texts can be compared, and
`>=` is total and transitive on all of them.

A condition and its opposite do not divide every list of rows, since on a row without the column
neither holds.  Of the rows of a dataset that was read every one has every column of the dataset, a
short record too, so there they do (`rows_of_opposites`). -/

namespace Tabular

namespace Operator

/-- The operator that holds of a cell where an operator does not. -/
def opposite? : Operator → Option Operator
  | eq => some ne
  | ne => some eq
  | gt => some le
  | le => some gt
  | lt => some ge
  | ge => some lt
  | like => some notLike
  | notLike => some like
  | isIn => some notIn
  | notIn => some isIn
  | isNull => some isNotNull
  | isNotNull => some isNull
  | startsWith => none
  | endsWith => none

variable {p q : Operator}

/-! ### Comparing numbers -/

theorem ge_holds_iff (cell operand : Text) :
    ge.holds cell operand = true ↔ operand.number.toInt ≤ cell.number.toInt := by
  unfold holds
  exact decide_eq_true_iff

theorem ge_total (s t : Text) : ge.holds s t = true ∨ ge.holds t s = true := by
  rw [ge_holds_iff, ge_holds_iff]
  exact Int.le_total _ _

theorem ge_trans {s t u : Text} (h : ge.holds s t = true) (h' : ge.holds t u = true) :
    ge.holds s u = true := by
  rw [ge_holds_iff] at h h' ⊢
  exact Int.le_trans h' h

/-! ### Opposites -/

/-- An operator and its opposite divide the cells, whatever the operand is. -/
theorem holds_opposite (h : p.opposite? = some q) (cell operand : Text) :
    q.holds cell operand = !p.holds cell operand := by
  cases p <;> cases h
  case eq | like | isIn | isNull => rfl
  case ne | notLike | notIn | isNotNull => exact (Bool.not_not _).symm
  case gt | le | lt | ge =>
    unfold holds
    dsimp only
    rw [← decide_not, decide_eq_decide]
    omega

end Operator

namespace Condition

variable {row : Row} {column : Text}

theorem holds_eq_false_of_notMem (missing : column ∉ row.columns) (op : Operator)
    (operand : Text) : (Condition.mk column op operand).holds row = false := by
  refine holds_of_missing ?_ op operand
  rw [← Option.not_isSome_iff_eq_none, ← Row.mem_columns_iff]
  exact missing

/-- On a row with the column a condition holds or its opposite does, and not both. -/
theorem holds_opposite {p q : Operator} (h : p.opposite? = some q) (present : column ∈ row.columns)
    (operand : Text) :
    (Condition.mk column q operand).holds row = !(Condition.mk column p operand).holds row := by
  obtain ⟨cell, found⟩ := Option.isSome_iff_exists.mp (Row.mem_columns_iff.mp present)
  rw [holds_of_get? found, holds_of_get? found, Operator.holds_opposite h]

end Condition

namespace Dataset

/-- **Opposite conditions.**  Let an operator have an opposite.  On a column of a dataset that was
read, and with any operand, every row meets exactly one of the two conditions, so the rows that meet
the one and those that meet the other are disjoint and make up the dataset.  On any other column no
row meets either.  The comparison by `>=` is total and transitive on all texts. -/
theorem rows_of_opposites :
    (∀ d : Dataset, d.IsLoaded → ∀ p q : Operator, p.opposite? = some q → ∀ column operand : Text,
      let meets (op : Operator) (row : Row) : Bool := (Condition.mk column op operand).holds row
      (column ∈ d.headers →
        (∀ row ∈ d.rows, Xor (meets p row = true) (meets q row = true)) ∧
        (d.rows.filter (meets p)).Disjoint (d.rows.filter (meets q)) ∧
        (d.rows.filter (meets p) ++ d.rows.filter (meets q)).Perm d.rows) ∧
      (column ∉ d.headers → ∀ row ∈ d.rows, meets p row = false ∧ meets q row = false)) ∧
    (∀ s t : Text, Operator.ge.holds s t = true ∨ Operator.ge.holds t s = true) ∧
    (∀ s t u : Text, Operator.ge.holds s t = true → Operator.ge.holds t u = true →
      Operator.ge.holds s u = true) := by
  refine ⟨?_, Operator.ge_total, fun s t u => Operator.ge_trans⟩
  intro d loaded p q opposite column operand meets
  constructor
  · intro inside
    have divides : ∀ row ∈ d.rows, meets q row = !meets p row := fun row mem =>
      Condition.holds_opposite opposite ((loaded.mem_columns_iff mem).mpr inside) operand
    have rest : d.rows.filter (meets q) = d.rows.filter fun row => !meets p row :=
      List.filter_congr divides
    refine ⟨fun row mem => ?_, ?_, ?_⟩
    · rw [divides row mem]
      cases meets p row <;> simp [Xor]
    · intro row left right
      rw [List.mem_filter] at left right
      rw [divides row left.1, left.2] at right
      cases right.2
    · rw [rest]
      exact List.filter_append_perm _ _
  · intro outside row mem
    have missing : column ∉ row.columns := fun present =>
      outside ((loaded.mem_columns_iff mem).mp present)
    exact ⟨Condition.holds_eq_false_of_notMem missing p operand,
      Condition.holds_eq_false_of_notMem missing q operand⟩

/-- A short record, signs, stripped marks and texts that are no number. -/
theorem rows_of_opposites_short :
    let t := "Name,Sum\nA,\"$1,200\"\nB\nC,-Infinity\nD,+.5e\nE,\n".toList
    let d : Dataset := .ofSheet "k".toList ⟨[], none, none, none⟩
      ((Csv.readSheet (Utf8.encode t)).toOption.getD ⟨[], []⟩)
    let meets (op : Operator) (row : Row) : Bool :=
      (Condition.mk "Sum".toList op "N/A".toList).holds row
    (d.IsLoaded ∧ Operator.gt.opposite? = some .le ∧ "Sum".toList ∈ d.headers ∧
      "sum".toList ∉ d.headers) ∧
    d.rows.map (meets .gt) = [true, false, false, true, false] ∧
    (d.rows.filter (meets .gt) ++ d.rows.filter (meets .le)).Perm d.rows ∧
    (∀ row ∈ d.rows, (Condition.mk "sum".toList .isNull []).holds row = false ∧
      (Condition.mk "sum".toList .isNotNull []).holds row = false) ∧
    Operator.ge.holds ".5".toList "-".toList = true ∧
    Operator.ge.holds "-".toList "-$1".toList = true ∧
    Operator.ge.holds ".5".toList "-$1".toList = true := by
  intro t d meets
  have loaded : d.IsLoaded := isLoaded_of_isSome _ _ (by decide +kernel)
  have inside : "Sum".toList ∈ d.headers := by decide +kernel
  have outside : "sum".toList ∉ d.headers := by decide +kernel
  have first : Operator.ge.holds ".5".toList "-".toList = true := by decide +kernel
  have second : Operator.ge.holds "-".toList "-$1".toList = true := by decide +kernel
  obtain ⟨divided, -, trans⟩ := rows_of_opposites
  obtain ⟨-, -, whole⟩ := (divided d loaded .gt .le rfl "Sum".toList "N/A".toList).1 inside
  exact ⟨⟨loaded, rfl, inside, outside⟩, by decide +kernel, whole,
    (divided d loaded .isNull .isNotNull rfl "sum".toList []).2 outside, first, second,
    trans _ _ _ first second⟩

end Dataset

end Tabular
