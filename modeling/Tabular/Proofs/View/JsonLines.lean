import Mathlib.Data.List.Forall2
import Tabular.Proofs.Settings.Json
import Tabular.Proofs.Sink

/-! # Lines of JSON that are written are read

The reader of this module cuts bytes behind every newline and reads each line by itself, as an
object of the key of a dataset and of a row.  A row that has the columns of its dataset is read back
from its line (`readLine?_jsonLine`), and a newline stands at the end of a line and nowhere else
(`newline_notMem_jsonObjectOf`), so the lines of what is written are the rows that were taken, in
their order.  The rows are the same as maps: an object has its members in the order of their
names. -/

namespace Tabular

open Utf8 (encode)

/-! ### Reading -/

/-- The byte at the end of a line. -/
def newline : UInt8 := 0x0A

/-- Bytes cut behind every newline; what stands behind the last one is a line too. -/
def linesOf : Bytes → List Bytes
  | [] => []
  | b :: t =>
    if b = newline then [b] :: linesOf t
    else
      match linesOf t with
      | [] => [[b]]
      | line :: others => (b :: line) :: others

/-- A cell of an object. -/
def cellOf? : Text × Setting → Option (Text × Text)
  | (column, .text t) => some (column, t)
  | _ => none

/-- The key of the dataset and the row that an object says. -/
def recordOf? : Setting → Option (Text × Row)
  | .table [(name, .text key), (name', .table members)] =>
    if name = "dataset".toList && name' = "row".toList then
      (members.mapM cellOf?).map fun cells => (key, Row.ofCells cells)
    else none
  | _ => none

/-- The key of the dataset and the row that a line says. -/
def readLine? (line : Bytes) : Option (Text × Row) := do
  let t ← (Utf8.decode line).toOption
  let object ← (Settings.Json.read t).toOption
  recordOf? object

/-- What a view says: the key of its dataset with each of its rows. -/
def View.records (v : View) : List (Text × Row) :=
  v.rows.map fun row => (v.dataset.key, row)

/-- Whether the rows of a view have the columns of its dataset and no others. -/
def View.IsWhole (v : View) : Prop :=
  ∀ row ∈ v.rows, ∀ column, column ∈ row.columns ↔ column ∈ v.dataset.headers

/-! ### Newlines -/

theorem newline_notMem_jsonChar (c : Char) : '\n' ∉ Text.jsonChar c := by
  have digits : ∀ n < 16, '\n' ≠ Text.hexDigit n := by decide
  unfold Text.jsonChar
  split
  · rename_i mark
    rw [Bool.or_eq_true, decide_eq_true_eq, decide_eq_true_eq] at mark
    rcases mark with rfl | rfl <;> decide
  split
  · decide
  split
  · decide
  split
  · decide
  split
  · decide
  split
  · decide
  split
  · rename_i control
    have first := digits (c.toNat / 16) (by omega)
    have second := digits (c.toNat % 16) (by omega)
    simp [first, second]
  · rename_i not_newline _ _ _
    simpa [eq_comm] using not_newline

theorem newline_notMem_jsonString (t : Text) : '\n' ∉ Text.jsonString t := by
  simp [Text.jsonString, newline_notMem_jsonChar]

theorem newline_notMem_joinWith {ts : List Text} (h : ∀ t ∈ ts, '\n' ∉ t) :
    '\n' ∉ Text.joinWith [','] ts := by
  induction ts with
  | nil => simp [Text.joinWith]
  | cons t ts ih =>
      obtain ⟨first, others⟩ := List.forall_mem_cons.mp h
      cases ts with
      | nil => exact first
      | cons t' ts => simp [Text.joinWith, first, ih others]

/-- The object of a line. -/
def View.jsonObjectOf (v : View) (row : Row) : Text :=
  View.jsonObject [View.jsonMember "dataset".toList (Text.jsonString v.dataset.key),
    View.jsonMember "row".toList (v.jsonRow row)]

theorem newline_notMem_jsonObject {members : List Text} (h : ∀ t ∈ members, '\n' ∉ t) :
    '\n' ∉ View.jsonObject members := by
  simp [View.jsonObject, newline_notMem_joinWith h]

theorem newline_notMem_jsonMember {value : Text} (name : Text) (h : '\n' ∉ value) :
    '\n' ∉ View.jsonMember name value := by
  simp [View.jsonMember, newline_notMem_jsonString, h]

theorem newline_notMem_jsonObjectOf (v : View) (row : Row) : '\n' ∉ v.jsonObjectOf row := by
  refine newline_notMem_jsonObject fun member h => ?_
  rcases List.mem_pair.mp h with rfl | rfl
  · exact newline_notMem_jsonMember _ (newline_notMem_jsonString _)
  · refine newline_notMem_jsonMember _ (newline_notMem_jsonObject fun cell h => ?_)
    obtain ⟨header, -, rfl⟩ := List.mem_map.mp h
    exact newline_notMem_jsonMember _ (newline_notMem_jsonString _)

/-! ### One line -/

theorem Text.mem_insertOrdered {t u : Text} {ts : List Text} :
    u ∈ insertOrdered t ts ↔ u = t ∨ u ∈ ts := by
  induction ts with
  | nil => simp [insertOrdered]
  | cons other rest ih =>
      rw [insertOrdered]
      split
      · rename_i same
        simp [same]
      · split
        · simp
        · simp only [List.mem_cons, ih]
          tauto

theorem Text.mem_ordered {t : Text} {ts : List Text} : t ∈ ordered ts ↔ t ∈ ts := by
  induction ts with
  | nil => simp [ordered]
  | cons u ts ih =>
      change t ∈ insertOrdered u (ordered ts) ↔ _
      rw [mem_insertOrdered, ih, List.mem_cons]

namespace View

variable (v : View) (row : Row)

/-- The cell of a row under a column. -/
def memberOf (header : Text) : Settings.Json.Member :=
  ⟨header, Text.jsonString ((row.get? header).getD []), .text ((row.get? header).getD [])⟩

/-- The members of a line. -/
def lineMembers : List Settings.Json.Member :=
  [⟨"dataset".toList, Text.jsonString v.dataset.key, .text v.dataset.key⟩,
    ⟨"row".toList, v.jsonRow row,
      .table ((Text.ordered v.dataset.headers).map fun h => (h, .text ((row.get? h).getD [])))⟩]

theorem reads_jsonRow (depth : Nat) :
    Settings.Json.Reads (depth + 2) (v.jsonRow row)
      (.table ((Text.ordered v.dataset.headers).map fun h => (h, .text ((row.get? h).getD [])))) := by
  have written : v.jsonRow row = jsonObject
      (((Text.ordered v.dataset.headers).map (memberOf row)).map Settings.Json.Member.text) := by
    rw [List.map_map]
    rfl
  have said : ((Text.ordered v.dataset.headers).map fun h => (h, .text ((row.get? h).getD []))) =
      ((Text.ordered v.dataset.headers).map (memberOf row)).map fun m => (m.name, m.setting) := by
    rw [List.map_map]
    rfl
  rw [written, said]
  refine Settings.Json.reads_object fun m h => ?_
  obtain ⟨header, -, rfl⟩ := List.mem_map.mp h
  exact Settings.Json.reads_text _ _

theorem read_jsonLine : Settings.Json.read (v.jsonLine row) =
    .ok (.table ((v.lineMembers row).map fun m => (m.name, m.setting))) := by
  refine Settings.Json.read_append (t := v.jsonObjectOf row) ?_ rfl
  change Settings.Json.Reads (126 + 2)
    (jsonObject ((v.lineMembers row).map Settings.Json.Member.text)) _
  refine Settings.Json.reads_object fun m h => ?_
  rcases List.mem_pair.mp h with rfl | rfl
  · exact Settings.Json.reads_text _ _
  · exact v.reads_jsonRow row 125

theorem mapM_cellOf? (headers : List Text) (g : Text → Text) :
    (headers.map fun h => (h, Setting.text (g h))).mapM cellOf? =
      some (headers.map fun h => (h, g h)) := by
  induction headers with
  | nil => rfl
  | cons h headers ih =>
      rw [List.map_cons, List.mapM_cons, ih]
      rfl

variable {v row}

/-- **A line is read.**  The line of a row that has the columns of its dataset says the key of the
dataset and the cells of the row. -/
theorem readLine?_jsonLine (whole : ∀ column, column ∈ row.columns ↔ column ∈ v.dataset.headers) :
    ∃ row', readLine? (encode (v.jsonLine row)) = some (v.dataset.key, row') ∧
      ∀ column, row'.get? column = row.get? column := by
  refine ⟨Row.ofCells ((Text.ordered v.dataset.headers).map fun h => (h, (row.get? h).getD [])),
    ?_, fun column => ?_⟩
  · rw [readLine?, Utf8.decode_encode]
    change (Settings.Json.read (v.jsonLine row)).toOption.bind recordOf? = _
    rw [v.read_jsonLine row]
    change (List.mapM cellOf? _).map _ = _
    rw [mapM_cellOf? (Text.ordered v.dataset.headers) fun h => (row.get? h).getD []]
    rfl
  · refine (Row.get?_setAll_map fun h => (row.get? h).getD []).trans ?_
    have known : column ∈ Text.ordered v.dataset.headers ↔ (row.get? column).isSome = true := by
      rw [Text.mem_ordered, ← whole]
      exact Row.lookup_isSome_iff.symm
    split
    · rename_i mem
      obtain ⟨t, e⟩ := Option.isSome_iff_exists.mp (known.mp mem)
      rw [e, Option.getD_some]
    · rename_i mem
      rw [known, Option.not_isSome_iff_eq_none] at mem
      rw [mem, Row.get?_empty]

end View

/-! ### All lines -/

theorem linesOf_append {front : Bytes} (h : newline ∉ front) (rest : Bytes) :
    linesOf (front ++ newline :: rest) = (front ++ [newline]) :: linesOf rest := by
  induction front with
  | nil => rw [List.nil_append, linesOf, if_pos rfl, List.nil_append]
  | cons b front ih =>
      rw [List.mem_cons, not_or] at h
      rw [List.cons_append, linesOf, if_neg (Ne.symm h.1), ih h.2]
      rfl

theorem newline_notMem_encode {t : Text} (h : '\n' ∉ t) : newline ∉ encode t := by
  intro mem
  obtain ⟨c, hc, mem⟩ := List.mem_flatMap.mp mem
  have same := Utf8.toNat_of_mem_encodeChar mem (by decide)
  have : c = '\n' := by
    rw [← Char.ofNat_toNat c, ← same]
    rfl
  exact h (this ▸ hc)

/-- The bytes of lines are cut into these lines. -/
theorem linesOf_encode {α : Type} (object : α → Text) (h : ∀ a, '\n' ∉ object a) (as : List α) :
    linesOf (encode (as.flatMap fun a => object a ++ ['\n'])) =
      as.map fun a => encode (object a) ++ [newline] := by
  induction as with
  | nil => rfl
  | cons a as ih =>
      have newlineBytes : encode ['\n'] = [newline] := by decide
      rw [List.flatMap_cons, Utf8.encode_append, Utf8.encode_append, newlineBytes, List.append_assoc,
        List.singleton_append, linesOf_append (newline_notMem_encode (h a)), ih, List.map_cons]

/-- The rows of some views, each with its view. -/
def View.shownRows (vs : List View) : List (View × Row) :=
  vs.flatMap fun v => v.rows.map fun row => (v, row)

theorem View.flatMap_jsonLines (vs : List View) :
    vs.flatMap View.jsonLines =
      (View.shownRows vs).flatMap fun p => p.1.jsonObjectOf p.2 ++ ['\n'] := by
  rw [View.shownRows, List.flatMap_assoc]
  refine List.flatMap_congr fun v _ => ?_
  rw [List.flatMap_map]
  rfl

theorem View.flatMap_records (vs : List View) :
    vs.flatMap View.records = (View.shownRows vs).map fun p => (p.1.dataset.key, p.2) := by
  rw [View.shownRows, List.map_flatMap]
  refine List.flatMap_congr fun v _ => ?_
  rw [List.map_map]
  rfl

namespace View

/-- The bytes of some views are cut into one line for each of their rows. -/
theorem linesOf_jsonLines (vs : List View) :
    linesOf (encode (vs.flatMap jsonLines)) =
      (shownRows vs).map fun p => encode (p.1.jsonObjectOf p.2) ++ [newline] := by
  rw [flatMap_jsonLines]
  exact linesOf_encode (fun p => p.1.jsonObjectOf p.2)
    (fun p => newline_notMem_jsonObjectOf p.1 p.2) (shownRows vs)

theorem length_linesOf (vs : List View) :
    (linesOf (encode (vs.flatMap jsonLines))).length = (vs.flatMap records).length := by
  rw [linesOf_jsonLines, flatMap_records, List.length_map, List.length_map]

theorem newline_of_mem_linesOf (vs : List View) :
    ∀ line ∈ linesOf (encode (vs.flatMap jsonLines)),
      ∃ front, line = front ++ [newline] ∧ newline ∉ front := by
  intro line mem
  rw [linesOf_jsonLines] at mem
  obtain ⟨p, -, e⟩ := List.mem_map.mp mem
  exact ⟨encode (p.1.jsonObjectOf p.2), e.symm,
    newline_notMem_encode (newline_notMem_jsonObjectOf p.1 p.2)⟩

theorem forall₂_linesOf {vs : List View} (whole : ∀ v ∈ vs, v.IsWhole) :
    List.Forall₂ (fun line record => ∃ row, readLine? line = some (record.1, row) ∧
      ∀ column, row.get? column = record.2.get? column)
      (linesOf (encode (vs.flatMap jsonLines))) (vs.flatMap records) := by
  rw [linesOf_jsonLines, flatMap_records, List.forall₂_map_left_iff, List.forall₂_map_right_iff,
    List.forall₂_same]
  rintro ⟨v, row⟩ mem
  obtain ⟨u, hu, mem⟩ := List.mem_flatMap.mp mem
  obtain ⟨r, hr, e⟩ := List.mem_map.mp mem
  cases e
  have line : encode (v.jsonObjectOf row) ++ [newline] = encode (v.jsonLine row) :=
    (Utf8.encode_append (v.jsonObjectOf row) ['\n']).symm
  dsimp only
  rw [line]
  exact readLine?_jsonLine (whole v hu row hr)

end View

namespace Sink

theorem foldl_accept_jsonl (xs : List Step) (vs : List View) :
    xs.foldl (accept .jsonl) vs = vs ++ xs.filterMap Step.view? := by
  induction xs generalizing vs with
  | nil => exact (List.append_nil vs).symm
  | cons x xs ih =>
      rw [List.foldl_cons, ih]
      cases x with
      | finish => rfl
      | add v => exact List.append_assoc vs [v] _

/-- **Written lines are read back.**  On any sink for lines of JSON, and after any steps in which
every view that is added has rows with the columns of its dataset, a further view is not refused,
and neither is finishing the sink.  The bytes that the target has then received have one line for
every row of these views, in their order, each of which ends in the only newline in it; and read one
by one the lines say the key of the dataset and the cells of the row. -/
theorem readLine_written {output : Text} {start w : Workspace} {s : Sink}
    (created : (create .jsonl output).runOn start = (.ok s, w)) (steps : List Step)
    (whole : ∀ v ∈ steps.filterMap Step.view?, v.IsWhole) :
    let after := s.run w steps
    let records := (steps.filterMap Step.view?).flatMap View.records
    (∀ u, ∃ s', (after.1.add u).runOn after.2 = (.ok s', after.2)) ∧
    ∃ finished w', after.1.finish.runOn after.2 = (.ok finished, w') ∧
      ∃ written, s.target.bytes? start w' = some written ∧
        (linesOf written).length = records.length ∧
        (∀ line ∈ linesOf written, ∃ front, line = front ++ [newline] ∧ newline ∉ front) ∧
        List.Forall₂ (fun line record => ∃ row, readLine? line = some (record.1, row) ∧
          ∀ column, row.get? column = record.2.get? column) (linesOf written) records := by
  intro after records
  have carries := (carries_create created).run steps
  rw [foldl_accept_jsonl, List.nil_append] at carries
  refine ⟨fun u => ?_, ?_⟩
  · have room : after.1.isFull = false := carries.isFull
    exact ⟨_, by rw [runOn_add, room, if_neg Bool.false_ne_true]⟩
  · obtain ⟨finished, w', run, -, -, received⟩ := carries.finish
    refine ⟨finished, w', run, _, received.bytes?, ?_⟩
    have lines := View.linesOf_jsonLines (steps.filterMap Step.view?)
    exact ⟨View.length_linesOf _, View.newline_of_mem_linesOf _, View.forall₂_linesOf whole⟩

/-- Two views, one of them added twice, with quotation marks, backslashes, newlines, controls and
other characters in key, columns and cells. -/
theorem readLine_written_two_views :
    let row := Row.ofCells [("é\\".toList, "1\t\x01\n".toList), ("x,\"".toList, "\u2028😀".toList)]
    let v : View := ⟨⟨"a\"\n".toList, ⟨[], none, none, none⟩, ["x,\"".toList, "é\\".toList], [row]⟩,
      [row]⟩
    let u : View := ⟨⟨[], ⟨[], none, none, none⟩, [], [.empty, .empty]⟩, [.empty, .empty]⟩
    let start : Workspace := ⟨⟨[], []⟩, []⟩
    let s := Sink.start .jsonl .output
    (create .jsonl ['-']).runOn start = (.ok s, start) ∧ v.IsWhole ∧ u.IsWhole ∧
      let after := s.run start [.add v, .finish, .add u, .add v]
      ∃ finished w', after.1.finish.runOn after.2 = (.ok finished, w') ∧
        ∃ written, s.target.bytes? start w' = some written ∧ (linesOf written).length = 4 ∧
          (∀ line ∈ linesOf written, ∃ front, line = front ++ [newline] ∧ newline ∉ front) ∧
          List.Forall₂ (fun line record => ∃ row, readLine? line = some (record.1, row) ∧
              ∀ column, row.get? column = record.2.get? column) (linesOf written)
            [(v.dataset.key, row), ([], .empty), ([], .empty), (v.dataset.key, row)] := by
  intro row v u start s
  have created : (create .jsonl ['-']).runOn start = (.ok s, start) := rfl
  have first : v.IsWhole := by
    intro r h column
    rw [List.mem_singleton.mp h]
    change column ∈ ["é\\".toList, "x,\"".toList] ↔ column ∈ ["x,\"".toList, "é\\".toList]
    rw [List.mem_pair, List.mem_pair, or_comm]
  have second : u.IsWhole := by
    intro r h column
    rcases List.mem_pair.mp h with rfl | rfl <;> exact Iff.rfl
  have both : ∀ x ∈ [v, u, v], x.IsWhole := by
    rintro x (_ | ⟨_, _ | ⟨_, _ | ⟨_, ⟨⟩⟩⟩⟩)
    · exact first
    · exact second
    · exact first
  exact ⟨created, first, second,
    (readLine_written created [.add v, .finish, .add u, .add v] both).2⟩

end Sink

end Tabular
