import Mathlib.Data.List.Induction
import Mathlib.Order.Bounds.Basic
import Tabular.Row

/-! # The cells of a row

A row is given by its columns in their order and the cell of each (`ext_of_get?`).  The columns of a
row that is put together from cells do not depend on what is in the cells, and of two cells of one
column the later one counts; so a row that is put together from some columns comes out the same if
its own cells are put under the same columns again (`ofCells_get?`), even where a column comes
twice. -/

namespace Tabular.Row

variable {row row' : Row} {cells : List (Text × Text)} {headers : List Text} {h v : Text}

/-! ### Columns and cells give the row -/

theorem lookup_isSome_iff : (cells.lookup h).isSome = true ↔ h ∈ cells.map Prod.fst := by
  induction cells with
  | nil => simp
  | cons cell cells ih =>
      rw [List.lookup_cons, List.map_cons, List.mem_cons]
      by_cases same : h = cell.1
      · simp [same]
      · simp [same, ih, beq_eq_false_iff_ne.mpr same]

theorem mem_columns_iff : h ∈ row.columns ↔ (row.get? h).isSome = true :=
  lookup_isSome_iff.symm

theorem mem_cells_iff : (h, v) ∈ row.cells ↔ row.get? h = some v := by
  rw [get?, List.lookup_eq_some_iff]
  constructor
  · intro mem
    obtain ⟨before, after, e⟩ := List.append_of_mem mem
    have distinct := row.distinct
    rw [e, List.map_append, List.map_cons] at distinct
    refine ⟨before, after, e, fun cell hcell => ?_⟩
    have apart := (List.nodup_append.mp distinct).2.2 cell.1 (List.mem_map_of_mem hcell) h
      List.mem_cons_self
    simpa using fun same => apart same.symm
  · rintro ⟨before, after, e, -⟩
    rw [e]
    simp

theorem cells_eq_of_lookup {cells' : List (Text × Text)}
    (columns : cells.map Prod.fst = cells'.map Prod.fst) (distinct : (cells.map Prod.fst).Nodup)
    (same : ∀ h, cells.lookup h = cells'.lookup h) : cells = cells' := by
  induction cells generalizing cells' with
  | nil => exact (List.map_eq_nil_iff.mp columns.symm).symm
  | cons cell cells ih =>
      obtain ⟨cell', cells', rfl, first, rest⟩ := List.map_eq_cons_iff.mp columns.symm
      rw [List.map_cons, List.nodup_cons] at distinct
      obtain ⟨k, x⟩ := cell
      obtain ⟨k', x'⟩ := cell'
      obtain rfl : k' = k := first
      have value : x = x' := by simpa using same k'
      have others : ∀ h, cells.lookup h = cells'.lookup h := by
        intro h
        by_cases here : h = k'
        · have gone : ∀ l : List (Text × Text), k' ∉ l.map Prod.fst → l.lookup k' = none := by
            intro l absent
            rw [← Option.not_isSome_iff_eq_none, lookup_isSome_iff]
            exact absent
          rw [here, gone cells distinct.1, gone cells' (rest ▸ distinct.1)]
        · simpa [List.lookup_cons, beq_eq_false_iff_ne.mpr here] using same h
      rw [value, ih rest.symm distinct.2 others]

theorem ext_of_get? (columns : row.columns = row'.columns) (same : ∀ h, row.get? h = row'.get? h) :
    row = row' := by
  obtain ⟨cells, distinct⟩ := row
  obtain ⟨cells', distinct'⟩ := row'
  obtain rfl : cells = cells' := cells_eq_of_lookup columns distinct same
  rfl

/-! ### Rows from cells -/

/-- The row with some cells set. -/
def setAll (row : Row) (cells : List (Text × Text)) : Row :=
  cells.foldl (fun row cell => row.set cell.1 cell.2) row

theorem columns_setAll {cells' : List (Text × Text)} (start : row.columns = row'.columns)
    (same : cells.map Prod.fst = cells'.map Prod.fst) :
    (row.setAll cells).columns = (row'.setAll cells').columns := by
  induction cells generalizing row row' cells' with
  | nil =>
      obtain rfl := List.map_eq_nil_iff.mp same.symm
      exact start
  | cons cell cells ih =>
      obtain ⟨cell', cells', rfl, first, rest⟩ := List.map_eq_cons_iff.mp same.symm
      have step : (row.set cell.1 cell.2).columns = (row'.set cell'.1 cell'.2).columns := by
        change (setCell cell.1 cell.2 row.cells).map Prod.fst =
          (setCell cell'.1 cell'.2 row'.cells).map Prod.fst
        change row.cells.map Prod.fst = row'.cells.map Prod.fst at start
        rw [columns_setCell, columns_setCell, start, first]
      change ((row.set cell.1 cell.2).setAll cells).columns =
        ((row'.set cell'.1 cell'.2).setAll cells').columns
      exact ih step rest.symm

theorem mem_columns_setAll : h ∈ (row.setAll cells).columns ↔
    h ∈ row.columns ∨ h ∈ cells.map Prod.fst := by
  induction cells generalizing row with
  | nil => simp [setAll]
  | cons cell cells ih =>
      have step : h ∈ (row.set cell.1 cell.2).columns ↔ h ∈ row.columns ∨ h = cell.1 := by
        change h ∈ (setCell cell.1 cell.2 row.cells).map Prod.fst ↔
          h ∈ row.cells.map Prod.fst ∨ h = cell.1
        rw [columns_setCell]
        split
        · rename_i inside
          constructor
          · exact .inl
          · rintro (mem | rfl)
            · exact mem
            · exact inside
        · rw [List.mem_append, List.mem_singleton]
      change h ∈ ((row.set cell.1 cell.2).setAll cells).columns ↔ _
      rw [ih, step, List.map_cons, List.mem_cons, or_assoc]

theorem mem_columns_ofCells : h ∈ (ofCells cells).columns ↔ h ∈ cells.map Prod.fst :=
  mem_columns_setAll.trans (by simp [empty, columns])

theorem mem_of_get?_setAll (found : (row.setAll cells).get? h = some v) :
    row.get? h = some v ∨ (h, v) ∈ cells := by
  induction cells generalizing row with
  | nil => exact .inl found
  | cons cell cells ih =>
      rcases ih found with before | later
      · rw [get?_set] at before
        split at before
        · rename_i same
          cases before
          exact .inr (same ▸ List.mem_cons_self)
        · exact .inl before
      · exact .inr (List.mem_cons_of_mem _ later)

theorem getElem?_concat_of_ne {cell c : Text × Text} (other : c ≠ cell) (i : Nat) :
    (cells ++ [cell])[i]? = some c ↔ cells[i]? = some c := by
  rw [List.getElem?_append]
  split
  · exact Iff.rfl
  · rename_i beyond
    have absent : cells[i]? = none := List.getElem?_eq_none (by omega)
    rw [absent, List.getElem?_singleton]
    split
    · simp [other.symm]
    · exact Iff.rfl

/-- Of the cells of one column that a row is put together from, the last one counts. -/
theorem get?_ofCells_eq_some_iff :
    (ofCells cells).get? h = some v ↔
      ∃ i, IsGreatest {i : Nat | (cells[i]?).map Prod.fst = some h} i ∧ cells[i]? = some (h, v) := by
  induction cells using List.reverseRecOn with
  | nil => simp [ofCells, get?_empty]
  | append_singleton cells cell ih =>
      obtain ⟨column, value⟩ := cell
      have last : ofCells (cells ++ [(column, value)]) = (ofCells cells).set column value := by
        rw [ofCells, ofCells, List.foldl_append]
        rfl
      rw [last, get?_set]
      split
      · rename_i here
        subst here
        have greatest : IsGreatest
            {i : Nat | ((cells ++ [(h, value)])[i]?).map Prod.fst = some h} cells.length := by
          refine ⟨by simp, fun i mem => ?_⟩
          obtain ⟨c, found, -⟩ := Option.map_eq_some_iff.mp mem
          have inside := (List.getElem?_eq_some_iff.mp found).1
          rw [List.length_append, List.length_singleton] at inside
          omega
        constructor
        · intro same
          cases same
          exact ⟨_, greatest, by simp⟩
        · rintro ⟨i, greatest', found⟩
          rw [greatest'.unique greatest] at found
          simpa using found
      · rename_i other
        have old : ∀ (i : Nat) (c : Text × Text), c.1 = h →
            ((cells ++ [(column, value)])[i]? = some c ↔ cells[i]? = some c) := by
          intro i c there
          refine getElem?_concat_of_ne ?_ i
          rintro rfl
          exact other there.symm
        have positions : {i : Nat | ((cells ++ [(column, value)])[i]?).map Prod.fst = some h} =
            {i : Nat | (cells[i]?).map Prod.fst = some h} := by
          ext i
          simp only [Set.mem_ofPred_eq, Option.map_eq_some_iff]
          exact exists_congr fun c => and_congr_left (old i c)
        rw [ih, positions]
        exact exists_congr fun i => and_congr_right fun _ => (old i (h, v) rfl).symm

theorem get?_setAll_map (g : Text → Text) :
    (row.setAll (headers.map fun h => (h, g h))).get? h =
      if h ∈ headers then some (g h) else row.get? h := by
  induction headers generalizing row with
  | nil => rfl
  | cons k headers ih =>
      change ((row.set k (g k)).setAll (headers.map fun h => (h, g h))).get? h = _
      rw [ih, get?_set]
      by_cases later : h ∈ headers
      · simp [later]
      · by_cases here : h = k
        · simp [here]
        · simp [later, here]

/-- **The cells of a row put together again.**  A row that is put together from cells under some
columns is also put together from its own cells under these columns. -/
theorem ofCells_get? (made : row = ofCells cells) (columns : cells.map Prod.fst = headers) :
    ofCells (headers.map fun h => (h, (row.get? h).getD [])) = row := by
  have inside : ∀ h, h ∈ row.columns ↔ h ∈ headers := by
    intro h
    rw [made, mem_columns_ofCells, columns]
  refine ext_of_get? ?_ fun h => ?_
  · rw [made]
    refine columns_setAll rfl ?_
    rw [List.map_map, columns]
    exact List.map_id headers
  · rw [ofCells]
    refine (get?_setAll_map fun h => (row.get? h).getD []).trans ?_
    by_cases mem : h ∈ headers
    · rw [if_pos mem]
      obtain ⟨v, e⟩ := Option.isSome_iff_exists.mp (mem_columns_iff.mp ((inside h).mpr mem))
      rw [e, Option.getD_some]
    · have missing : row.get? h = none := by
        rw [← Option.not_isSome_iff_eq_none]
        exact fun found => mem ((inside h).mp (mem_columns_iff.mpr found))
      rw [if_neg mem, missing, get?_empty]

end Tabular.Row
