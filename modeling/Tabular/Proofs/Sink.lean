import Tabular.Proofs.Csv.Sheet
import Tabular.Proofs.Files.System
import Tabular.Proofs.Job
import Tabular.Sink

/-! # What a sink writes

A sink is used by any sequence of steps, in which views are added and it is finished, refused
additions included.  What every step keeps is `Sink.Carries`: the text that the target has received
and the text that is held back are together the text of the views that were accepted, in their
order.  So once a sink is finished its target has the text of these views; comma-separated records
are accepted of the first view alone, and they are read as the columns of its dataset and its rows
(`readSheet_written`). -/

namespace Tabular

open Utf8 (encode)

/-! ### Targets -/

namespace Target

/-- The workspace after a text is written to a target. -/
def after (target : Target) (w : Workspace) (t : Text) : Workspace :=
  match target with
  | output => { w with printed := w.printed ++ t }
  | file path => { w with files := w.files.append path (encode t) }

/-- The bytes that a target has received since a workspace. -/
def bytes? (target : Target) (start w : Workspace) : Option Bytes :=
  match target with
  | output => (Text.after? start.printed w.printed).map encode
  | file path =>
    match w.files.read path with
    | .ok (.ok bytes) => some bytes
    | _ => none

/-- Whether a target has received a text since a workspace. -/
def Received (target : Target) (start w : Workspace) (t : Text) : Prop :=
  match target with
  | output => w.printed = start.printed ++ t
  | file path => w.files.Holds path (encode t)

variable {target : Target} {start w : Workspace} {t u : Text}

theorem runOn_write (target : Target) (t : Text) (w : Workspace) :
    (target.write t).runOn w = (.ok (), target.after w t) := by
  cases target <;> rfl

theorem Received.after (h : target.Received start w t) (u : Text) :
    target.Received start (target.after w u) (t ++ u) := by
  cases target with
  | output =>
      change w.printed ++ u = start.printed ++ (t ++ u)
      rw [← List.append_assoc, ← (show w.printed = start.printed ++ t from h)]
  | file path =>
      change (w.files.append path (encode u)).Holds path (encode (t ++ u))
      rw [Utf8.encode_append]
      exact FileSystem.Holds.append h (encode u)

theorem Received.bytes? (h : target.Received start w t) :
    target.bytes? start w = some (encode t) := by
  cases target with
  | output =>
      have printed : w.printed = start.printed ++ t := h
      rw [Target.bytes?, printed, Text.after?_append]
      rfl
  | file path =>
      have read : w.files.read path = .ok (.ok (encode t)) := FileSystem.Holds.read h
      rw [Target.bytes?, read]

end Target

namespace Sink

/-! ### Steps -/

/-- A step in the use of a sink. -/
inductive Step where
  | add (v : View)
  | finish

/-- The view that a step adds. -/
def Step.view? : Step → Option View
  | add v => some v
  | finish => none

/-- A step of a sink. -/
def step (s : Sink) : Step → Job Sink
  | .add v => s.add v
  | .finish => s.finish

/-- The sink and the workspace after some steps.  A step that fails leaves the sink as it was. -/
def run (s : Sink) (w : Workspace) : List Step → Sink × Workspace
  | [] => (s, w)
  | x :: xs =>
    match (s.step x).runOn w with
    | (.ok s', w') => s'.run w' xs
    | (.error _, w') => s.run w' xs

/-- What is said about a second view among comma-separated records. -/
def secondView : Failure :=
  .rule "Sink: CSV output holds a single dataset"

/-- Whether a sink refuses any further view. -/
def isFull (s : Sink) : Bool :=
  s.format = .csv && s.taken ≠ 0

theorem add_of_full {s : Sink} (full : s.isFull = true) (v : View) :
    s.add v = Job.fail secondView := by
  rw [add, ← isFull, full]
  rfl

theorem add_of_free {s : Sink} (free : s.isFull = false) (v : View) :
    s.add v = pure { s with taken := s.taken + 1, pending := s.pending ++ v.textIn s.format } := by
  rw [add, ← isFull, free]
  rfl

theorem runOn_add (s : Sink) (v : View) (w : Workspace) :
    (s.add v).runOn w =
      if s.isFull then (.error secondView, w)
      else (.ok { s with taken := s.taken + 1, pending := s.pending ++ v.textIn s.format }, w) := by
  cases full : s.isFull with
  | true =>
      rw [add_of_full full]
      rfl
  | false =>
      rw [add_of_free full]
      rfl

theorem runOn_finish (s : Sink) (w : Workspace) :
    s.finish.runOn w =
      if s.pending.isEmpty then (.ok s, w)
      else (.ok { s with pending := [] }, s.target.after w s.pending) := by
  unfold finish
  cases s.pending.isEmpty with
  | true => rfl
  | false =>
      change (s.target.write s.pending >>= fun _ => pure { s with pending := [] }).runOn w = _
      rw [Job.runOn_bind_ok (Target.runOn_write s.target s.pending w)]
      rfl

theorem goes_finish_error {s : Sink} (something : s.pending ≠ []) (w : Workspace) (part : Text)
    (e : IoError) : s.finish.Goes w (.error (.of (.io e))) (s.target.after w part) := by
  have unwritten : (s.target.write s.pending).Goes w (.error (.of (.io e)))
      (s.target.after w part) := by
    cases s.target with
    | output => exact .ask (.unprinted s.pending part e) (.done _ _)
    | file path => exact .ask (.unwritten path _ (encode part) e) (.done _ _)
  rw [finish, if_neg (by simpa using something)]
  exact unwritten.bind_error _

/-! ### What every step keeps -/

/-- The views that a sink with some views has after a step. -/
def accept (format : Format) (vs : List View) : Step → List View
  | .add v => if format = .csv && !vs.isEmpty then vs else vs ++ [v]
  | .finish => vs

/-- What holds of a sink that has accepted some views since a workspace. -/
structure Carries (format : Format) (target : Target) (start : Workspace) (vs : List View) (s : Sink)
    (w : Workspace) : Prop where
  hasFormat : s.format = format
  hasTarget : s.target = target
  taken : s.taken = vs.length
  /-- What is written and what is held back are the text of the views. -/
  text : ∃ written, target.Received start w written ∧
    written ++ s.pending = vs.flatMap (·.textIn format)

variable {format : Format} {target : Target} {start w w' : Workspace} {vs : List View} {s s' : Sink}

theorem Carries.isFull (h : s.Carries format target start vs w) :
    s.isFull = (format = .csv && !vs.isEmpty) := by
  rw [Sink.isFull, h.hasFormat, h.taken]
  cases vs <;> simp

/-- A finished sink holds nothing back, and its target has the text of the views. -/
theorem Carries.finish (h : s.Carries format target start vs w) :
    ∃ s' w', s.finish.runOn w = (.ok s', w') ∧ s'.pending = [] ∧
      s'.Carries format target start vs w' ∧
      target.Received start w' (vs.flatMap (·.textIn format)) := by
  obtain ⟨written, received, whole⟩ := h.text
  rw [runOn_finish]
  by_cases empty : s.pending = []
  · rw [if_pos (by rw [empty]; rfl)]
    rw [empty, List.append_nil] at whole
    exact ⟨s, w, rfl, empty, h, whole ▸ received⟩
  · have all : target.Received start (s.target.after w s.pending)
        (vs.flatMap (·.textIn format)) := by
      rw [h.hasTarget, ← whole]
      exact received.after s.pending
    rw [if_neg (by simpa using empty)]
    exact ⟨_, _, rfl, rfl, ⟨h.hasFormat, h.hasTarget, h.taken, _, all, List.append_nil _⟩, all⟩

/-- Every step keeps this, whether it is refused or not. -/
theorem Carries.step (h : s.Carries format target start vs w) (x : Step) :
    (∃ s' w', (s.step x).runOn w = (.ok s', w') ∧
      s'.Carries format target start (accept format vs x) w') ∨
    (∃ e, (s.step x).runOn w = (.error e, w) ∧ accept format vs x = vs) := by
  cases x with
  | finish =>
      obtain ⟨s', w', run, -, carries, -⟩ := h.finish
      exact .inl ⟨s', w', run, carries⟩
  | add v =>
      have run := runOn_add s v w
      rw [h.isFull] at run
      change (s.step (.add v)).runOn w = _ at run
      rw [accept]
      cases full : (decide (format = .csv) && !vs.isEmpty) with
      | true =>
          rw [full, if_pos rfl] at run
          exact .inr ⟨_, run, if_pos rfl⟩
      | false =>
          rw [full, if_neg Bool.false_ne_true] at run
          obtain ⟨written, received, whole⟩ := h.text
          refine .inl ⟨_, _, run, h.hasFormat, h.hasTarget, ?_, written, received, ?_⟩
          · rw [if_neg Bool.false_ne_true, List.length_append, ← h.taken]
            rfl
          · change written ++ (s.pending ++ v.textIn s.format) = _
            rw [if_neg Bool.false_ne_true, List.flatMap_append, ← whole, h.hasFormat,
              List.append_assoc, List.flatMap_singleton]

theorem Carries.run (h : s.Carries format target start vs w) (xs : List Step) :
    (s.run w xs).1.Carries format target start (xs.foldl (accept format) vs) (s.run w xs).2 := by
  induction xs generalizing s w vs with
  | nil => exact h
  | cons x xs ih =>
      rw [Sink.run, List.foldl_cons]
      rcases h.step x with ⟨s', w', run, carries⟩ | ⟨e, run, same⟩
      · rw [run]
        exact ih carries
      · rw [run, same]
        exact ih h

theorem foldl_accept_csv (xs : List Step) (vs : List View) :
    xs.foldl (accept .csv) vs = if vs.isEmpty then (xs.findSome? Step.view?).toList else vs := by
  induction xs generalizing vs with
  | nil =>
      cases vs <;> rfl
  | cons x xs ih =>
      rw [List.foldl_cons, ih]
      cases x with
      | finish => cases vs <;> rfl
      | add v => cases vs <;> rfl

/-! ### The beginning of a sink -/

theorem runOn_toFile (format : Format) (path : Text) (w : Workspace) :
    (toFile format path).runOn w =
      match w.files.createFile path with
      | .ok files => (.ok (Sink.start format (.file path)), { w with files })
      | .error e => (.error (.of (.io e)), w) := by
  have created : (Job.request (.createFile path)).runOn w =
      (.ok (w.updated (w.files.createFile path)).1, (w.updated (w.files.createFile path)).2) := rfl
  rw [toFile, Job.runOn_bind_ok created]
  cases w.files.createFile path <;> rfl

theorem create_output {output : Text} (dash : Path.isDash output = true) (format : Format) :
    create format output = pure (Sink.start format .output) := by
  rw [create, dash]
  rfl

theorem create_table {output : Text} (file : Path.isDash output = false) :
    create .table output =
      Job.fail (.rule "CLI: Table output only goes to stdout; use csv or jsonl for files") := by
  rw [create, file]
  rfl

theorem create_file {output : Text} (file : Path.isDash output = false) {format : Format}
    (plain : format ≠ .table) :
    create format output =
      Job.within s!"Sink: Failed to create {Path.quoted output}" (toFile format output) := by
  rw [create, file, if_neg plain]
  rfl

theorem runOn_create_file {output : Text} (file : Path.isDash output = false) {format : Format}
    (plain : format ≠ .table) (w : Workspace) :
    (create format output).runOn w =
      match w.files.createFile output with
      | .ok files => (.ok (Sink.start format (.file output)), { w with files })
      | .error e =>
        (.error ((Failure.of (.io e)).within s!"Sink: Failed to create {Path.quoted output}"),
          w) := by
  rw [create_file file plain, Job.runOn_within, runOn_toFile]
  cases w.files.createFile output <;> rfl

theorem carries_toFile {path : Text} {files : FileSystem}
    (made : w.files.createFile path = .ok files) :
    (Sink.start format (.file path)).Carries format (.file path) w [] { w with files } :=
  ⟨rfl, rfl, rfl, [], FileSystem.holds_of_createFile made, rfl⟩

theorem carries_create {output : Text} (h : (create format output).runOn w = (.ok s, w')) :
    s.Carries format s.target w [] w' := by
  cases dash : Path.isDash output with
  | true =>
      rw [create_output dash] at h
      cases h
      exact ⟨rfl, rfl, rfl, [], (List.append_nil _).symm, rfl⟩
  | false =>
      by_cases table : format = .table
      · subst table
        rw [create_table dash] at h
        cases h
      · rw [runOn_create_file dash table] at h
        cases made : w.files.createFile output with
        | ok files =>
            rw [made] at h
            cases h
            exact carries_toFile made
        | error e =>
            rw [made] at h
            cases h

end Sink

/-! ### Exports -/

namespace Export

theorem holds_write {directory : Text} {date : Date} {v : View} {w : Workspace} {files : FileSystem}
    (some_rows : v.rows ≠ []) (made : w.files.createFile (path directory v date) = .ok files) :
    ∃ w', (write directory date v).runOn w = (.ok (some (path directory v date)), w') ∧
      w'.files.Holds (path directory v date) (encode v.csvText) := by
  have opened : (Job.within s!"Sink: Failed to create export file {Path.quoted (path directory v date)}"
      (Sink.toFile .csv (path directory v date))).runOn w =
        (.ok (.start .csv (.file (path directory v date))), { w with files }) := by
    refine Job.runOn_within_ok ?_
    rw [Sink.runOn_toFile, made]
  have empty : Sink.Carries .csv (.file (path directory v date)) w [] _ _ := Sink.carries_toFile made
  obtain ⟨s, w₁, added, carries⟩ := (empty.step (.add v)).resolve_right fun ⟨_, _, same⟩ => by
    cases same
  have added' : ((Sink.start .csv (.file (path directory v date))).add v).runOn
      { w with files } = (.ok s, w₁) := added
  obtain ⟨finished, w₂, run, -, -, received⟩ := carries.finish
  refine ⟨w₂, ?_, ?_⟩
  · unfold write
    rw [if_neg (by simpa using some_rows), Job.runOn_bind_ok opened]
    rw [Job.runOn_bind_ok added', Job.runOn_bind_ok run]
    rfl
  · change w₂.files.Holds _ (encode ([v].flatMap fun v => v.textIn .csv)) at received
    rw [List.flatMap_singleton] at received
    exact received

end Export

namespace Sink

open Csv (readSheet Sheet)

/-- **Written views are read back.**  Of a view of a sheet that was read, with a first column whose
name does not begin with the character of the mark, this is true.  On any sink for comma-separated
records, and after any steps in which it is the first view that is added, every further view is
refused and changes nothing; finishing the sink is not refused, doing so again changes nothing, and
the bytes that the target has then received are read as the columns of the sheet and the rows of the
view.  So are the bytes of the file to which the view is exported if it has rows. -/
theorem readSheet_written {bytes : Bytes} {sheet : Sheet} (read : readSheet bytes = .ok sheet)
    (named : sheet.headers ≠ [])
    (unmarked : ∀ header ∈ sheet.headers.head?, header.head? ≠ some '\uFEFF') {v : View}
    {key : Text} {info : Info} (dataset : v.dataset = .ofSheet key info sheet)
    (rows : ∀ row ∈ v.rows, row ∈ sheet.rows) :
    (∀ (output : Text) (start w : Workspace) (s : Sink),
      (create .csv output).runOn start = (.ok s, w) →
      ∀ steps : List Step, steps.findSome? Step.view? = some v →
        let after := s.run w steps
        (∀ u, (after.1.add u).runOn after.2 = (.error secondView, after.2)) ∧
        ∃ finished w', after.1.finish.runOn after.2 = (.ok finished, w') ∧
          finished.finish.runOn w' = (.ok finished, w') ∧
          ∃ written, s.target.bytes? start w' = some written ∧
            readSheet written = .ok ⟨sheet.headers, v.rows⟩) ∧
    (∀ (directory : Text) (date : Date) (w : Workspace) (files : FileSystem), v.rows ≠ [] →
      w.files.createFile (Export.path directory v date) = .ok files →
      ∃ w' written, (Export.write directory date v).runOn w =
          (.ok (some (Export.path directory v date)), w') ∧
        w'.files.read (Export.path directory v date) = .ok (.ok written) ∧
        readSheet written = .ok ⟨sheet.headers, v.rows⟩) := by
  have back := Csv.readSheet_csvText read named unmarked dataset rows
  refine ⟨fun output start w s created steps first => ?_,
    fun directory date w files some_rows made => ?_⟩
  · intro after
    have one : steps.foldl (accept .csv) [] = [v] := by
      rw [foldl_accept_csv, first]
      rfl
    have carries := (carries_create created).run steps
    rw [one] at carries
    refine ⟨fun u => ?_, ?_⟩
    · have full : after.1.isFull = true := carries.isFull
      rw [runOn_add, full]
      rfl
    · obtain ⟨finished, w', run, empty, -, received⟩ := carries.finish
      rw [List.flatMap_singleton] at received
      refine ⟨finished, w', run, ?_, encode v.csvText, received.bytes?, back⟩
      rw [runOn_finish, empty]
      rfl
  · obtain ⟨w', run, holds⟩ := Export.holds_write some_rows made
    exact ⟨w', _, run, holds.read, back⟩

/-- A sheet with two columns of one name, cells with commas, quotation marks and ends of lines, and
a row that is too short. -/
theorem readSheet_written_two_names :
    let bytes := encode "A,\" x,\ny \",A\r\n1,\" say \"\"hi\"\" \",3\n\n,é\n".toList
    let output := "out.csv".toList
    let exported := "./d_export_2024-01-02.csv".toList
    let start : Workspace := ⟨⟨[], []⟩, []⟩
    ∃ (sheet : Sheet) (v : View), readSheet bytes = .ok sheet ∧
      sheet.headers = ["A".toList, "x,\ny".toList, "A".toList] ∧
      v.rows.map Row.cells =
        [[("A".toList, "3".toList), ("x,\ny".toList, "say \"hi\"".toList)],
          [("A".toList, []), ("x,\ny".toList, "é".toList)]] ∧
      (∃ s w finished w' written, (create .csv output).runOn start = (.ok s, w) ∧
        let after := s.run w [.finish, .add v, .add v, .finish]
        after.1.finish.runOn after.2 = (.ok finished, w') ∧
          s.target.bytes? start w' = some written ∧
          readSheet written = .ok ⟨sheet.headers, v.rows⟩) ∧
      ∃ w' written, (Export.write ".".toList ⟨2024, 1, 2⟩ v).runOn start = (.ok (some exported), w') ∧
        w'.files.read exported = .ok (.ok written) ∧
        readSheet written = .ok ⟨sheet.headers, v.rows⟩ := by
  intro bytes output exported start
  have evaluated : (readSheet bytes).toOption.map (fun s => (s.headers, s.rows.map Row.cells)) =
      some (["A".toList, "x,\ny".toList, "A".toList],
        [[("A".toList, "3".toList), ("x,\ny".toList, "say \"hi\"".toList)],
          [("A".toList, []), ("x,\ny".toList, "é".toList)]]) := by decide +kernel
  obtain ⟨sheet, read, e⟩ := exists_of_toOption_map evaluated
  obtain ⟨headers, cells⟩ := Prod.mk.inj e
  let v : View := ⟨.ofSheet "d".toList ⟨"d".toList, none, none, none⟩ sheet, sheet.rows⟩
  have named : sheet.headers ≠ [] := by simp [headers]
  have unmarked : ∀ header ∈ sheet.headers.head?, header.head? ≠ some '\uFEFF' := by
    rw [headers]
    decide
  have some_rows : v.rows ≠ [] := by
    intro none
    have := congrArg List.length cells
    rw [List.length_map, show sheet.rows = [] from none] at this
    cases this
  have made : start.files.createFile output = .ok (start.files.put [output] (.file [])) := by rfl
  have created : (create .csv output).runOn start =
      (.ok (.start .csv (.file output)), { start with files := start.files.put [output] (.file []) }) := by
    unfold create
    rw [if_neg (by decide)]
    exact Job.runOn_within_ok (by rw [runOn_toFile, made])
  have place : Export.path ".".toList v ⟨2024, 1, 2⟩ = exported := by rfl
  have made' : start.files.createFile exported =
      .ok (start.files.put [exported.drop 2] (.file [])) := by rfl
  have all := readSheet_written read named unmarked (v := v) rfl fun _ h => h
  obtain ⟨-, finished, w', finish, -, written, received, back⟩ :=
    all.1 output start _ _ created [.finish, .add v, .add v, .finish] rfl
  obtain ⟨w'', written', exporting, stored, back'⟩ :=
    all.2 ".".toList ⟨2024, 1, 2⟩ start _ some_rows (place ▸ made')
  exact ⟨sheet, v, read, headers, cells,
    ⟨_, _, finished, w', written, created, finish, received, back⟩,
    w'', written', exporting, stored, back'⟩

end Sink

end Tabular
