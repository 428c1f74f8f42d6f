import Mathlib.Data.List.Dedup
import Mathlib.Data.List.Forall2
import Tabular.Proofs.Csv.Sheet

/-! # The columns of a sheet

What a sheet has to do with the records that it is read from.  The names are the texts of the first
record, and there is a row for every further one, all without the white space around them.  A row
gives a cell for every name; where a name comes more than once, its last position counts, also if the
record does not reach so far (`IsRowOf`).

The cells of these records lose white space twice, first some as bytes and then the rest as text, and
that is no more than trimming their texts (`isCell_of_trimBytes`). -/

namespace Tabular

open Unicode
open Utf8 (decode)

namespace Utf8

/-! ### Bytes put together -/

theorem cons_map_append_map {n m : Nat} (same : n = m) (x : Char) (u : Text) (ys : Bytes) :
    ((x :: ·) <$> (u ++ ·) <$> decodeAfter n ys) = (x :: u ++ ·) <$> decodeAfter m ys := by
  rw [Functor.map_map, same]
  rfl

theorem decodeAfter_append {passed : Nat} {xs : Bytes} {t : Text}
    (h : decodeAfter passed xs = .ok t) (passed' : Nat) (ys : Bytes) :
    decodeAfter passed' (xs ++ ys) = (t ++ ·) <$> decodeAfter (passed' + xs.length) ys := by
  fun_induction decodeAfter passed xs generalizing t passed' with
  | case1 =>
      cases h
      exact (id_map _).symm
  | case2 passed a xs low ih =>
      obtain ⟨u, hu, rfl⟩ := except_map_eq_ok.mp h
      rw [List.cons_append, decodeAfter.eq_def]
      simp only [if_pos low, ih hu]
      exact cons_map_append_map (by simp; omega) _ u ys
  | case3 => cases h
  | case4 passed a low b xs x two ih =>
      obtain ⟨u, hu, rfl⟩ := except_map_eq_ok.mp h
      rw [List.cons_append, List.cons_append, decodeAfter.eq_def]
      simp only [if_neg low, two, ih hu]
      exact cons_map_append_map (by simp; omega) x u ys
  | case5 => cases h
  | case6 passed a low b two c xs x three ih =>
      obtain ⟨u, hu, rfl⟩ := except_map_eq_ok.mp h
      rw [List.cons_append, List.cons_append, List.cons_append, decodeAfter.eq_def]
      simp only [if_neg low, two, three, ih hu]
      exact cons_map_append_map (by simp; omega) x u ys
  | case7 => cases h
  | case8 passed a low b two c three d xs x four ih =>
      obtain ⟨u, hu, rfl⟩ := except_map_eq_ok.mp h
      rw [List.cons_append, List.cons_append, List.cons_append, List.cons_append,
        decodeAfter.eq_def]
      simp only [if_neg low, two, three, four, ih hu]
      exact cons_map_append_map (by simp; omega) x u ys
  | case9 => cases h

theorem decodeAfter_ascii {w : Bytes} (low : ∀ b ∈ w, b < 0x80) (passed : Nat) :
    decodeAfter passed w = .ok (w.map fun b => Char.ofNat b.toNat) := by
  induction w generalizing passed with
  | nil => rfl
  | cons b w ih =>
      obtain ⟨first, others⟩ := List.forall_mem_cons.mp low
      rw [decodeAfter.eq_def]
      simp only [if_pos first, ih others]
      rfl

end Utf8

namespace Csv

/-! ### White space around a field -/

theorem isSpace_cases {b : UInt8} (h : isSpace b = true) :
    b < 0x80 ∧ isWhiteSpace (Char.ofNat b.toNat) = true := by
  simp only [isSpace, Bool.or_eq_true, beq_iff_eq] at h
  rcases h with (((rfl | rfl) | rfl) | rfl) | rfl <;> decide

theorem exists_decode_spaces {w : Bytes} (h : ∀ b ∈ w, isSpace b = true) :
    ∃ u, Text.isBlank u = true ∧ ∀ passed, Utf8.decodeAfter passed w = .ok u := by
  refine ⟨_, ?_, Utf8.decodeAfter_ascii fun b mem => (isSpace_cases (h b mem)).1⟩
  rw [Text.isBlank, List.all_map, List.all_eq_true]
  exact fun b mem => (isSpace_cases (h b mem)).2

theorem exists_trimBytes (field : Bytes) :
    ∃ w w', (∀ b ∈ w, isSpace b = true) ∧ (∀ b ∈ w', isSpace b = true) ∧
      field = w ++ (trimBytes field ++ w') := by
  have front : field.takeWhile isSpace ++ field.dropWhile isSpace = field :=
    List.takeWhile_append_dropWhile
  have back := congrArg List.reverse (List.takeWhile_append_dropWhile (p := isSpace)
    (l := (field.dropWhile isSpace).reverse))
  rw [List.reverse_append, List.reverse_reverse] at back
  refine ⟨field.takeWhile isSpace,
    ((field.dropWhile isSpace).reverse.takeWhile isSpace).reverse, ?_, ?_, ?_⟩
  · exact fun b mem => List.mem_takeWhile_imp mem
  · exact fun b mem => List.mem_takeWhile_imp (List.mem_reverse.mp mem)
  · rw [trimBytes, back, front]

/-! ### Cells -/

/-- What a field is as a cell: its text, without the white space around it. -/
def IsCell (field : Bytes) (cell : Text) : Prop :=
  ∃ t, decode field = .ok t ∧ cell = Text.trim t

theorem isCell_of_trimBytes {field : Bytes} {cell : Text} (h : IsCell (trimBytes field) cell) :
    IsCell field cell := by
  obtain ⟨t, read, rfl⟩ := h
  obtain ⟨w, w', hw, hw', e⟩ := exists_trimBytes field
  obtain ⟨v, blank, readFront⟩ := exists_decode_spaces hw
  obtain ⟨v', blank', readBack⟩ := exists_decode_spaces hw'
  refine ⟨v ++ t ++ v', ?_, (Text.trim_pad blank blank' t).symm⟩
  rw [e, decode, Utf8.decodeAfter_append (readFront 0), Utf8.decodeAfter_append read, readBack,
    List.append_assoc]
  rfl

theorem isCell_of_fieldTexts {record index : Nat} {start : Position} {fields : List Bytes}
    {cells : List Text} (h : fieldTexts record start index fields = .ok cells) :
    List.Forall₂ IsCell fields cells := by
  induction fields generalizing index cells with
  | nil =>
      cases h
      exact .nil
  | cons field fields ih =>
      rw [fieldTexts] at h
      split at h
      · cases h
      · rename_i t read
        obtain ⟨others, hothers, rfl⟩ := except_map_eq_ok.mp h
        exact .cons ⟨t, read, rfl⟩ (ih hothers)

theorem isCell_of_cellTexts {index : Nat} {r : Record} {cells : List Text}
    (h : cellTexts index r = .ok cells) : List.Forall₂ IsCell r.fields cells :=
  (List.forall₂_map_left_iff.mp (isCell_of_fieldTexts h)).imp fun _ _ => isCell_of_trimBytes

theorem isCell_of_headerTexts {r : Option Record} {headers : List Text}
    (h : headerTexts r = .ok headers) :
    List.Forall₂ IsCell (r.elim [] Record.fields) headers := by
  cases r with
  | none =>
      cases h
      exact .nil
  | some r => exact isCell_of_fieldTexts h

/-! ### Rows -/

/-- What a row is of some cells under the names of a sheet: its columns are the names, each once, and
the cell of a name is the one at the last position of the name, or empty if there are not so many. -/
structure IsRowOf (headers cells : List Text) (row : Row) : Prop where
  columns : row.columns.Perm headers.dedup
  get?_eq_some_iff : ∀ h v, row.get? h = some v ↔
    ∃ i, IsGreatest {i : Nat | headers[i]? = some h} i ∧ v = cells[i]?.getD []

theorem getElem?_pairCells (headers cells : List Text) (i : Nat) :
    (pairCells headers cells)[i]? = headers[i]?.map fun h => (h, cells[i]?.getD []) := by
  induction headers generalizing cells i with
  | nil => rfl
  | cons h headers ih =>
      cases i with
      | zero => cases cells <;> rfl
      | succ i =>
          cases cells with
          | nil => simp [pairCells, ih]
          | cons c cells => simp [pairCells, ih]

theorem isRowOf_ofCells (headers cells : List Text) :
    IsRowOf headers cells (Row.ofCells (pairCells headers cells)) where
  columns := by
    refine (List.perm_ext_iff_of_nodup (Row.distinct _) (List.nodup_dedup _)).mpr fun h => ?_
    rw [List.mem_dedup]
    exact Row.mem_columns_ofCells.trans (by rw [columns_pairCells])
  get?_eq_some_iff h v := by
    have positions : {i : Nat | ((pairCells headers cells)[i]?).map Prod.fst = some h} =
        {i : Nat | headers[i]? = some h} := by
      ext i
      simp [getElem?_pairCells]
    rw [Row.get?_ofCells_eq_some_iff, positions]
    refine exists_congr fun i => and_congr_right fun greatest => ?_
    have here : headers[i]? = some h := greatest.1
    rw [getElem?_pairCells, here]
    simp [eq_comm]

/-- The cells of a record make a row under the names of a sheet. -/
def MakesRow (headers : List Text) (r : Record) (row : Row) : Prop :=
  ∃ cells, List.Forall₂ IsCell r.fields cells ∧ IsRowOf headers cells row

theorem makesRow_of_rowsFrom {headers : List Text} {index : Nat} {rs : List Record}
    {rows : List Row} (h : rowsFrom headers index rs = .ok rows) :
    List.Forall₂ (MakesRow headers) rs rows := by
  induction rs generalizing index rows with
  | nil =>
      cases h
      exact .nil
  | cons r rs ih =>
      rw [rowsFrom] at h
      obtain ⟨cells, hcells, h⟩ := except_bind_eq_ok.mp h
      obtain ⟨others, hothers, h⟩ := except_bind_eq_ok.mp h
      cases h
      exact .cons ⟨cells, isCell_of_cellTexts hcells, isRowOf_ofCells headers cells⟩ (ih hothers)

end Csv

/-- Whether there is no white space around the names and the cells of a dataset. -/
def Dataset.IsTrimmed (d : Dataset) : Prop :=
  (∀ header ∈ d.headers, Text.trim header = header) ∧
    ∀ row ∈ d.rows, ∀ cell ∈ row.cells, Text.trim cell.1 = cell.1 ∧ Text.trim cell.2 = cell.2

namespace Csv

theorem isTrimmed_of_readSheet {bytes : Bytes} {sheet : Sheet} (read : readSheet bytes = .ok sheet)
    (key : Text) (info : Info) : (Dataset.ofSheet key info sheet).IsTrimmed := by
  obtain ⟨headers, rows⟩ := rows_of_readSheet read
  refine ⟨headers, fun row hrow cell mem => ?_⟩
  have column : cell.1 ∈ sheet.headers :=
    (rows row hrow).mem_columns_iff.mp (List.mem_map_of_mem mem)
  have value := (rows row hrow).trim cell.1
  rw [Row.mem_cells_iff.mp mem, Option.getD_some] at value
  exact ⟨headers _ column, value⟩

/-- **The columns of a sheet.**  If the bytes of a file are read as a sheet, its names are the cells of
the first record in their order, and it has a row for every further record, in their order.  The
columns of such a row are the names, each once.  The cell of a name is the cell of the record at the
last position of the name, or empty if the record does not have this position; as it is always at the
position of a name, cells beyond the names are in no row.  So there is no white space around a name
or a cell of a dataset of the sheet. -/
theorem columns_of_readSheet {bytes : Bytes} {sheet : Sheet} (read : readSheet bytes = .ok sheet) :
    List.Forall₂ IsCell ((records bytes).head?.elim [] Record.fields) sheet.headers ∧
      List.Forall₂ (MakesRow sheet.headers) (records bytes).tail sheet.rows ∧
      ∀ key info, (Dataset.ofSheet key info sheet).IsTrimmed := by
  have trimmed := isTrimmed_of_readSheet read
  obtain ⟨headers, hheaders, read⟩ := except_bind_eq_ok.mp read
  obtain ⟨rows, hrows, read⟩ := except_bind_eq_ok.mp read
  cases read
  exact ⟨isCell_of_headerTexts hheaders, makesRow_of_rowsFrom hrows, trimmed⟩

/-- Two names that are one only after trimming, white space that is no byte of its own, a short record
that ends before the last position of a name, and one with a cell too many. -/
theorem columns_of_readSheet_ragged :
    let bytes := Utf8.encode "A, B,\u3000A\n1,2\n\n\" x,y\", ,\u00A03 ,4\n".toList
    let a := "A".toList
    let b := "B".toList
    ∃ sheet, readSheet bytes = .ok sheet ∧ sheet.headers = [a, b, a] ∧
      sheet.rows.map Row.cells =
        [[(a, []), (b, "2".toList)], [(a, "3".toList), (b, [])]] ∧
      List.Forall₂ IsCell ((records bytes).head?.elim [] Record.fields) sheet.headers ∧
      List.Forall₂ (MakesRow sheet.headers) (records bytes).tail sheet.rows ∧
      ∀ key info, (Dataset.ofSheet key info sheet).IsTrimmed := by
  intro bytes a b
  have evaluated : (readSheet bytes).toOption.map (fun s => (s.headers, s.rows.map Row.cells)) =
      some ([a, b, a], [[(a, []), (b, "2".toList)], [(a, "3".toList), (b, [])]]) := by
    decide +kernel
  obtain ⟨sheet, read, e⟩ := exists_of_toOption_map evaluated
  obtain ⟨headers, rows⟩ := Prod.mk.inj e
  exact ⟨sheet, read, headers, rows, columns_of_readSheet read⟩

end Csv

end Tabular
