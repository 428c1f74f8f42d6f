import Tabular.Format
import Tabular.Proofs.Csv.Records
import Tabular.Proofs.Job
import Tabular.Proofs.Row
import Tabular.Proofs.Text.Edges

/-! # Sheets that are written and read

The names and cells of a sheet that was read have no white space around them, and every row is put
together from some cells under the names (`rows_of_readSheet`).  So what is written of a sheet is
read as the same sheet, and what is written of a view of it has its columns and the rows of the view
(`readSheet_csvText`).  The first name must not begin with the character of the mark, which a reader
passes over at the front of a file. -/

namespace Tabular.Csv

open Unicode
open Utf8 (encode decode)

/-! ### White space around a field -/

theorem isSpace_eq_false_of_mem {x : Char} (solid : isWhiteSpace x = false) {b : UInt8}
    (mem : b ∈ String.utf8EncodeChar x) : isSpace b = false := by
  have apart : ∀ c : Char, isWhiteSpace c = true → x.toNat ≠ c.toNat := by
    intro c white same
    rw [Char.toNat_inj.mp same, white] at solid
    cases solid
  have h₁ : b ≠ 0x20 := ne_of_mem_encodeChar mem (by decide) (apart ' ' (by decide))
  have h₂ : b ≠ 0x09 := ne_of_mem_encodeChar mem (by decide) (apart '\t' (by decide))
  have h₃ : b ≠ 0x0A := ne_of_mem_encodeChar mem (by decide) (apart '\n' (by decide))
  have h₄ : b ≠ 0x0C := ne_of_mem_encodeChar mem (by decide) (apart '\x0C' (by decide))
  have h₅ : b ≠ 0x0D := ne_of_mem_encodeChar mem (by decide) (apart '\r' (by decide))
  simp [isSpace, h₁, h₂, h₃, h₄, h₅]

theorem dropWhile_isSpace_of_head {bs : Bytes} (h : ∀ b ∈ bs.head?, isSpace b = false) :
    bs.dropWhile isSpace = bs := by
  cases bs with
  | nil => rfl
  | cons b bs => rw [List.dropWhile_cons, h b rfl, if_neg Bool.false_ne_true]

theorem trimBytes_encode {t : Text} (trimmed : Text.trim t = t) :
    trimBytes (encode t) = encode t := by
  by_cases ne : t = []
  · subst ne
    rfl
  obtain ⟨front, back⟩ := (Text.trim_eq_self_iff ne).mp trimmed
  have first : (encode t).dropWhile isSpace = encode t := by
    refine dropWhile_isSpace_of_head fun b hb => ?_
    obtain ⟨x, t, rfl⟩ := List.exists_cons_of_ne_nil ne
    rw [Text.frontSolid_cons, Bool.not_eq_true'] at front
    rw [Utf8.encode_cons, List.head?_append_of_ne_nil _ (by simp)] at hb
    exact isSpace_eq_false_of_mem front (List.mem_of_mem_head? hb)
  have last : (encode t).reverse.dropWhile isSpace = (encode t).reverse := by
    refine dropWhile_isSpace_of_head fun b hb => ?_
    obtain ⟨t, y, rfl⟩ := (List.eq_nil_or_concat' t).resolve_left ne
    rw [Text.backSolid_concat, Bool.not_eq_true'] at back
    rw [List.head?_reverse, Utf8.encode_append, Utf8.encode_cons, Utf8.encode_nil, List.append_nil,
      List.getLast?_append_of_ne_nil _ (by simp)] at hb
    exact isSpace_eq_false_of_mem back (List.mem_of_mem_getLast? hb)
  rw [trimBytes, first, last, List.reverse_reverse]

/-! ### Fields and texts -/

theorem trim_of_fieldTexts {record index : Nat} {start : Position} {fields : List Bytes}
    {ts : List Text} (h : fieldTexts record start index fields = .ok ts) :
    ∀ t ∈ ts, Text.trim t = t := by
  induction fields generalizing index ts with
  | nil =>
      cases h
      simp
  | cons field fields ih =>
      rw [fieldTexts] at h
      split at h
      · cases h
      · cases rest : fieldTexts record start (index + 1) fields with
        | error e =>
            rw [rest] at h
            cases h
        | ok us =>
            rw [rest] at h
            cases h
            exact List.forall_mem_cons.mpr ⟨Text.trim_trim _, ih rest⟩

theorem fieldTexts_encode {ts : List Text} (trimmed : ∀ t ∈ ts, Text.trim t = t)
    (record index : Nat) (start : Position) :
    fieldTexts record start index (ts.map encode) = .ok ts := by
  induction ts generalizing index with
  | nil => rfl
  | cons t ts ih =>
      obtain ⟨first, others⟩ := List.forall_mem_cons.mp trimmed
      rw [List.map_cons, fieldTexts, Utf8.decode_encode]
      dsimp only
      rw [first, ih others]
      rfl

theorem cellTexts_encode {ts : List Text} (trimmed : ∀ t ∈ ts, Text.trim t = t) (index : Nat)
    {r : Record} (fields : r.fields = ts.map encode) : cellTexts index r = .ok ts := by
  have same : (ts.map encode).map trimBytes = ts.map encode := by
    rw [List.map_map]
    exact List.map_congr_left fun t ht => trimBytes_encode (trimmed t ht)
  rw [cellTexts, fields, same]
  exact fieldTexts_encode trimmed index 0 r.start

/-! ### Rows -/

/-- A row of a sheet that is read: cells without white space around them under the names. -/
def IsRead (headers : List Text) (row : Row) : Prop :=
  ∃ cells, (∀ cell ∈ cells, Text.trim cell = cell) ∧ row = Row.ofCells (pairCells headers cells)

theorem isRead_of_rowsFrom {headers : List Text} {index : Nat} {rs : List Record}
    {rows : List Row} (h : rowsFrom headers index rs = .ok rows) :
    ∀ row ∈ rows, IsRead headers row := by
  induction rs generalizing index rows with
  | nil =>
      cases h
      simp
  | cons r rs ih =>
      rw [rowsFrom] at h
      obtain ⟨cells, hcells, h⟩ := except_bind_eq_ok.mp h
      obtain ⟨others, hothers, h⟩ := except_bind_eq_ok.mp h
      cases h
      exact List.forall_mem_cons.mpr ⟨⟨cells, trim_of_fieldTexts hcells, rfl⟩, ih hothers⟩

theorem rowsFrom_encode {headers : List Text} {rs : List Record} {cs : List (List Text)}
    (trimmed : ∀ c ∈ cs, ∀ t ∈ c, Text.trim t = t)
    (fields : rs.map Record.fields = cs.map (·.map encode)) (index : Nat) :
    rowsFrom headers index rs = .ok (cs.map fun c => Row.ofCells (pairCells headers c)) := by
  induction rs generalizing cs index with
  | nil =>
      obtain rfl := List.map_eq_nil_iff.mp fields.symm
      rfl
  | cons r rs ih =>
      obtain ⟨c, cs, rfl, first, others⟩ := List.map_eq_cons_iff.mp fields.symm
      obtain ⟨trimmed, trimmed'⟩ := List.forall_mem_cons.mp trimmed
      rw [rowsFrom, cellTexts_encode trimmed index first.symm]
      change (rowsFrom headers (index + 1) rs >>= fun rows =>
        pure (Row.ofCells (pairCells headers c) :: rows)) = _
      rw [ih trimmed' others.symm]
      rfl

theorem columns_pairCells (headers cells : List Text) :
    (pairCells headers cells).map Prod.fst = headers := by
  induction headers generalizing cells with
  | nil => rfl
  | cons h headers ih =>
      cases cells with
      | nil => exact congrArg _ (ih [])
      | cons c cells => exact congrArg _ (ih cells)

theorem pairCells_map (g : Text → Text) (headers : List Text) :
    pairCells headers (headers.map g) = headers.map fun h => (h, g h) := by
  induction headers with
  | nil => rfl
  | cons h headers ih => exact congrArg _ ih

theorem mem_of_mem_pairCells {headers cells : List Text} {cell : Text × Text}
    (mem : cell ∈ pairCells headers cells) : cell.2 ∈ cells ∨ cell.2 = [] := by
  induction headers generalizing cells with
  | nil => cases mem
  | cons h headers ih =>
      cases cells with
      | nil =>
          rcases List.mem_cons.mp mem with rfl | mem
          · exact .inr rfl
          · exact ih mem
      | cons c cells =>
          rcases List.mem_cons.mp mem with rfl | mem
          · exact .inl List.mem_cons_self
          · exact (ih mem).imp_left (List.mem_cons_of_mem _)

variable {headers : List Text} {row : Row}

theorem IsRead.mem_columns_iff (h : IsRead headers row) {column : Text} :
    column ∈ row.columns ↔ column ∈ headers := by
  obtain ⟨cells, -, rfl⟩ := h
  rw [Row.mem_columns_ofCells, columns_pairCells]

theorem IsRead.trim (h : IsRead headers row) (column : Text) :
    Text.trim ((row.get? column).getD []) = (row.get? column).getD [] := by
  obtain ⟨cells, trimmed, rfl⟩ := h
  cases found : (Row.ofCells (pairCells headers cells)).get? column with
  | none => rfl
  | some v =>
      rw [Option.getD_some]
      rcases Row.mem_of_get?_setAll found with before | mem
      · cases before
      · rcases mem_of_mem_pairCells mem with mem | empty
        · exact trimmed v mem
        · change v = [] at empty
          rw [empty]
          rfl

/-- A row that is read comes out the same if its cells are put under the names again. -/
theorem IsRead.ofCells_pairCells (h : IsRead headers row) :
    Row.ofCells (pairCells headers (headers.map fun column => (row.get? column).getD [])) = row := by
  obtain ⟨cells, -, made⟩ := h
  rw [pairCells_map fun column => (row.get? column).getD []]
  exact Row.ofCells_get? made (columns_pairCells headers cells)

/-! ### Sheets -/

/-- What is known of a sheet that is read. -/
theorem rows_of_readSheet {bytes : Bytes} {sheet : Sheet} (read : readSheet bytes = .ok sheet) :
    (∀ header ∈ sheet.headers, Text.trim header = header) ∧
      ∀ row ∈ sheet.rows, IsRead sheet.headers row := by
  obtain ⟨headers, hheaders, read⟩ := except_bind_eq_ok.mp read
  obtain ⟨rows, hrows, read⟩ := except_bind_eq_ok.mp read
  cases read
  refine ⟨?_, isRead_of_rowsFrom hrows⟩
  cases first : (records bytes).head? with
  | none =>
      rw [first] at hheaders
      cases hheaders
      simp
  | some r =>
      rw [first] at hheaders
      exact trim_of_fieldTexts hheaders

/-- Records of texts without white space around them are read as a sheet. -/
theorem readSheet_of_fields {bytes : Bytes} {headers : List Text} {cs : List (List Text)}
    (fields : (records bytes).map Record.fields = (headers :: cs).map (·.map encode))
    (trimmed : ∀ header ∈ headers, Text.trim header = header)
    (trimmed' : ∀ c ∈ cs, ∀ t ∈ c, Text.trim t = t) :
    readSheet bytes = .ok ⟨headers, cs.map fun c => Row.ofCells (pairCells headers c)⟩ := by
  obtain ⟨r, rs, all, first, others⟩ := List.map_eq_cons_iff.mp fields
  have names : headerTexts (records bytes).head? = .ok headers := by
    rw [all, List.head?_cons, headerTexts, first]
    exact fieldTexts_encode trimmed 0 0 r.start
  have rows : rowsFrom headers 1 (records bytes).tail =
      .ok (cs.map fun c => Row.ofCells (pairCells headers c)) := by
    rw [all, List.tail_cons]
    exact rowsFrom_encode trimmed' others 1
  change (headerTexts (records bytes).head? >>= fun headers =>
    rowsFrom headers 1 (records bytes).tail >>= fun rows => pure (Sheet.mk headers rows)) = _
  rw [names]
  change (rowsFrom headers 1 (records bytes).tail >>= fun rows =>
    pure (Sheet.mk headers rows)) = _
  rw [rows]
  rfl

/-- **Written views.**  What is written of some rows of a sheet that was read is read as a sheet of
the same columns and these rows, if there is a column and the name of the first one does not begin
with the character of the mark. -/
theorem readSheet_csvText {bytes : Bytes} {sheet : Sheet} (read : readSheet bytes = .ok sheet)
    (ne : sheet.headers ≠ [])
    (unmarked : ∀ header ∈ sheet.headers.head?, header.head? ≠ some '\uFEFF') {v : View}
    {key : Text} {info : Info} (dataset : v.dataset = .ofSheet key info sheet)
    (rows : ∀ row ∈ v.rows, row ∈ sheet.rows) :
    readSheet (encode v.csvText) = .ok ⟨sheet.headers, v.rows⟩ := by
  obtain ⟨trimmed, known⟩ := rows_of_readSheet read
  have headers : v.dataset.headers = sheet.headers := congrArg Dataset.headers dataset
  have written : v.csvText = (sheet.headers :: v.rows.map v.cells).flatMap recordText := by
    rw [View.csvText, headers, List.flatMap_cons, List.flatMap_map]
  have some_cells : ∀ c ∈ sheet.headers :: v.rows.map v.cells, c ≠ [] := by
    intro c hc
    rcases List.mem_cons.mp hc with rfl | hc
    · exact ne
    · obtain ⟨row, -, rfl⟩ := List.mem_map.mp hc
      rw [View.cells, headers]
      exact mt List.map_eq_nil_iff.mp ne
  have markless : Utf8.byteOrderMark.isPrefixOf (encode v.csvText) = false := by
    rw [Bool.eq_false_iff]
    intro marked
    obtain ⟨t, ts, e⟩ := List.exists_cons_of_ne_nil ne
    have front := head?_of_mark marked
    rw [written, e, List.flatMap_cons] at front
    rcases head?_recordText front with h | h | h
    · cases (show ¬ ('\uFEFF' = '"') by decide) h
    · cases (show ¬ ('\uFEFF' = ',') by decide) h
    · exact unmarked t (by rw [e]; rfl) h
  have fields : (records (encode v.csvText)).map Record.fields =
      (sheet.headers :: v.rows.map v.cells).map (·.map encode) := by
    rw [map_fields_records markless, written]
    exact read_records some_cells
  have trimmed' : ∀ c ∈ v.rows.map v.cells, ∀ t ∈ c, Text.trim t = t := by
    intro c hc t ht
    obtain ⟨row, hrow, rfl⟩ := List.mem_map.mp hc
    rw [View.cells] at ht
    obtain ⟨column, -, rfl⟩ := List.mem_map.mp ht
    exact (known row (rows row hrow)).trim column
  rw [readSheet_of_fields fields trimmed trimmed', List.map_map]
  have same : v.rows.map ((fun c => Row.ofCells (pairCells sheet.headers c)) ∘ v.cells) =
      v.rows := by
    conv_rhs => rw [← List.map_id v.rows]
    refine List.map_congr_left fun row hrow => ?_
    change Row.ofCells (pairCells sheet.headers (v.dataset.headers.map _)) = row
    rw [headers]
    exact (known row (rows row hrow)).ofCells_pairCells
  rw [same]

end Tabular.Csv
