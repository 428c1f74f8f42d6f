import Tabular.Proofs.Files.Growth
import Tabular.Proofs.Run.Stages

/-! # The effects of a run

A run that is not refused makes the requests of `Options.MayAsk` alone, whatever it is answered: it
looks, it prints, it makes its own files and adds to them, and it makes the directory for the exports
and those around it (`Options.keeps_write`).  Each of these requests changes files in the domain of
the run alone (`Options.Owns`), whether it fails or not (`Options.MayAsk.extends`), so a whole run
does no more (`Options.run_confined`).  Writing can fail at any place, and then the run says so
(`Options.Showing.goes_unwritten`). -/

namespace Tabular

open Job
open Utf8 (encode)

/-! ### Extending a workspace -/

/-- Locations that depend on the files, and that belong to them for good. -/
structure FileSystem.Domain where
  holds : FileSystem → Location → Prop
  grows : ∀ {fs fs' : FileSystem} {l : Location}, fs.Grows fs' → holds fs l → holds fs' l

namespace Workspace

variable {domain : FileSystem.Domain} {w w' w'' : Workspace} {path path' t : Text} {l : Location}

/-- Whether a workspace has grown into another one, with changes of files in a domain alone. -/
structure Extends (domain : FileSystem.Domain) (w w' : Workspace) : Prop where
  grows : w.files.Grows w'.files
  within : ∀ l, w'.files.node? l ≠ w.files.node? l → domain.holds w'.files l

theorem Extends.of_files (e : w'.files = w.files) : w.Extends domain w' where
  grows := e ▸ .refl w.files
  within l changed := absurd (by rw [e]) changed

theorem Extends.trans (h : w.Extends domain w') (h' : w'.Extends domain w'') :
    w.Extends domain w'' where
  grows := h.grows.trans h'.grows
  within l changed := by
    by_cases late : w''.files.node? l = w'.files.node? l
    · rw [late] at changed
      exact domain.grows h'.grows (h.within l changed)
    · exact h'.within l late

instance : IsPreorder Workspace (Extends domain) where
  refl _ := .of_files rfl
  trans _ _ _ := Extends.trans

/-! ### Single requests -/

theorem extends_put {n : FileNode} (grows : w.files.Grows (w.files.put l n))
    (owned : domain.holds (w.files.put l n) l) :
    w.Extends domain { w with files := w.files.put l n } := by
  refine ⟨grows, fun l' changed => ?_⟩
  obtain rfl : l' = l := by
    by_contra other
    exact changed (FileSystem.node?_put_of_ne other n)
  exact owned

theorem extends_createFile
    (owned : ∀ fs l c, fs.find path = .ok (.node l (.file c)) → domain.holds fs l) :
    w.Extends domain (w.answer (.createFile path)).2 := by
  rw [answer]
  cases made : w.files.createFile path with
  | error e => exact .of_files rfl
  | ok files =>
      obtain ⟨l, leads, keep, rfl⟩ := FileSystem.exists_of_createFile made
      exact extends_put (FileSystem.grows_put_file keep _)
        (owned _ _ _ ((leads.put keep _).find (FileSystem.node?_put_self leads.ne_nil _)))

theorem extends_append
    (owned : ∀ fs l c, fs.find path = .ok (.node l (.file c)) → domain.holds fs l)
    (content : Bytes) : w.Extends domain { w with files := w.files.append path content } := by
  rw [FileSystem.append]
  split
  · rename_i l before found
    have here := FileSystem.node?_of_find found
    have keep : w.files.node? l ≠ some .directory := by
      rw [here]
      simp
    have grows := FileSystem.grows_put_file keep (before ++ content)
    exact extends_put grows (owned _ _ _ (grows.find found
      (FileSystem.node?_put_self (FileSystem.ne_nil_of_node? keep) _)))
  · exact .of_files rfl

theorem extends_createDirectory
    (owned : ∀ fs l, fs.find path = .ok (.node l .directory) → domain.holds fs l) :
    w.Extends domain (w.answer (.createDirectory path)).2 := by
  rw [answer]
  cases made : w.files.createDirectory path with
  | error e => exact .of_files rfl
  | ok files =>
      obtain ⟨l, free, rfl, found⟩ := FileSystem.exists_of_createDirectory made
      exact extends_put (FileSystem.grows_put_directory free) (owned _ _ found)

end Workspace

/-! ### Names of exports -/

namespace Export

theorem notMem_digits (places n : Nat) : '/' ∉ Date.digits places n := by
  intro mem
  rw [Date.digits, List.mem_append] at mem
  rcases mem with mem | mem
  · cases List.eq_of_mem_replicate mem
  · cases Nat.isDigit_of_mem_toDigits (by decide) (by decide) mem

theorem notMem_fileName (name : Text) (date : Date) : '/' ∉ fileName name date := by
  have plain : '/' ∉ plainName name := by
    intro mem
    obtain ⟨c, -, e⟩ := List.mem_map.mp mem
    split at e
    · cases e
    · rename_i other
      exact other (by simp [e])
  have day : '/' ∉ date.text := by
    rw [Date.text]
    simp only [List.mem_append, List.mem_cons, not_or]
    refine ⟨⟨⟨?_, notMem_digits _ _⟩, by decide, notMem_digits _ _⟩, by decide, notMem_digits _ _⟩
    split <;> decide
  simp only [fileName, List.mem_append, not_or]
  exact ⟨⟨⟨plain, by decide⟩, day⟩, by decide⟩

/-- A file at the path of an export is a child of the directory. -/
theorem isAt_of_find {fs : FileSystem} {directory : Text} {v : View} {date : Date} {l : Location}
    {c : Bytes} (found : fs.find (path directory v date) = .ok (.node l (.file c))) :
    ∃ d, fs.IsAt directory d ∧ l = d ++ [fileName v.dataset.displayName date] := by
  have ending : (fileName v.dataset.displayName date).getLast? = some 'v' := by
    rw [fileName, List.getLast?_append]
    rfl
  refine FileSystem.isAt_of_find_join found (notMem_fileName _ date) ?_ ?_
  · rw [Path.isIdle, Bool.or_eq_false_iff, List.isEmpty_eq_false_iff, beq_eq_false_iff_ne]
    constructor <;> intro e <;> rw [e] at ending <;> cases ending
  · intro e
    rw [e] at ending
    cases ending

end Export

/-! ### Output -/

namespace Options

/-- Writes views to the output. -/
def writeOutput (o : Options) (format : Format) (views : List View) : Job Sink := do
  let sink ← addAll (← Sink.create format o.output) views
  Job.within "Sink: Failed to finalize output" sink.finish

/-- Exports views if there is a directory for exports. -/
def exports (o : Options) (date : Date) (views : List View) : Job Unit :=
  match o.exportDirectory with
  | some directory => do
    Export.createDirectory directory
    exportAll directory date views
  | none => pure ()

theorem write_eq (o : Options) (date : Date) (format : Format) (views : List View) :
    o.write date format views = o.writeOutput format views >>= fun _ => o.exports date views := by
  rw [write, writeOutput, exports]
  simp only [bind_assoc]
  cases o.exportDirectory <;> rfl

/-- Where there is room for all views they are all taken, and nothing is asked for. -/
theorem addAll_eq {s : Sink} {vs : List View} (room : s.format = .csv → s.taken + vs.length ≤ 1) :
    addAll s vs = pure { s with
      taken := s.taken + vs.length
      pending := s.pending ++ vs.flatMap (·.textIn s.format) } := by
  induction vs generalizing s with
  | nil =>
      rw [addAll, List.flatMap_nil, List.append_nil]
      rfl
  | cons v vs ih =>
      simp only [List.length_cons] at room
      have free : s.isFull = false := by
        rw [Sink.isFull, Bool.and_eq_false_iff]
        by_cases csv : s.format = .csv
        · have := room csv
          exact .inr (by simp; omega)
        · exact .inl (by simpa using csv)
      have room' : s.format = .csv → s.taken + 1 + vs.length ≤ 1 := fun csv => by
        have := room csv
        omega
      rw [addAll, Sink.add_of_free free, List.flatMap_cons, List.length_cons, ← List.append_assoc,
        Nat.add_comm vs.length, ← Nat.add_assoc]
      exact ih room'

theorem addAll_start {format : Format} {vs : List View} (room : format = .csv → vs.length ≤ 1)
    (target : Target) :
    addAll (.start format target) vs =
      pure ⟨format, target, vs.length, vs.flatMap (·.textIn format)⟩ := by
  rw [addAll_eq fun csv => by simpa [Sink.start] using room csv]
  simp [Sink.start]

/-! ### The domain of a run -/

/-- Where a run that shows these views may change something: the file at the output path, the
files of the exports, which are children of the directory for exports, and this directory and those
around it. -/
inductive Owns (o : Options) (date : Date) (views : List View) (fs : FileSystem) :
    Location → Prop where
  | output {l : Location} {c : Bytes} (file : Path.isDash o.output = false)
      (found : fs.find o.output = .ok (.node l (.file c))) : Owns o date views fs l
  | exported {directory : Text} {d : Location} {v : View} {c : Bytes}
      (asked : o.exportDirectory = some directory) (shown : v ∈ views) (some_rows : v.rows ≠ [])
      (inside : fs.IsAt directory d)
      (found : fs.node? (d ++ [Export.fileName v.dataset.displayName date]) = some (.file c)) :
      Owns o date views fs (d ++ [Export.fileName v.dataset.displayName date])
  | directory {directory path : Text} {l : Location} (asked : o.exportDirectory = some directory)
      (around : path ∈ Export.ancestors (directory.length + 1) directory)
      (found : fs.find path = .ok (.node l .directory)) : Owns o date views fs l

/-- What a run owns it still owns when there is more. -/
def domain (o : Options) (date : Date) (views : List View) : FileSystem.Domain where
  holds fs l := o.Owns date views fs l
  grows grows owned := by
    cases owned with
    | output file found =>
        obtain ⟨c', now⟩ := grows.file (FileSystem.node?_of_find found)
        exact .output file (grows.find found now)
    | exported asked shown some_rows inside found =>
        obtain ⟨c', now⟩ := grows.file found
        exact .exported asked shown some_rows (inside.grows grows) now
    | directory asked around found =>
        exact .directory asked around
          (grows.find found (grows.directory (FileSystem.node?_of_find found)))

/-! ### The requests of a run -/

/-- The paths of the files that a run makes: that of the output, and those of the exports. -/
inductive Writes (o : Options) (date : Date) (views : List View) : Text → Prop where
  | output (file : Path.isDash o.output = false) : Writes o date views o.output
  | exported {directory : Text} {v : View} (asked : o.exportDirectory = some directory)
      (shown : v ∈ views) (some_rows : v.rows ≠ []) :
      Writes o date views (Export.path directory v date)

/-- The requests that a run makes. -/
inductive MayAsk (o : Options) (date : Date) (views : List View) : Request → Prop where
  | look {r : Request} (looks : r.looks = true) : MayAsk o date views r
  | print (t : Text) : MayAsk o date views (.print t)
  | createFile {path : Text} (own : o.Writes date views path) :
      MayAsk o date views (.createFile path)
  | append {path : Text} (own : o.Writes date views path) (content : Bytes) :
      MayAsk o date views (.append path content)
  | createDirectory {directory path : Text} (asked : o.exportDirectory = some directory)
      (around : path ∈ Export.ancestors (directory.length + 1) directory) :
      MayAsk o date views (.createDirectory path)

section requests

variable {o : Options} {date : Date} {views : List View} {path : Text}

theorem Writes.owns (own : o.Writes date views path) (fs : FileSystem) (l : Location) (c : Bytes)
    (found : fs.find path = .ok (.node l (.file c))) : o.Owns date views fs l := by
  cases own with
  | output file => exact .output file found
  | exported asked shown some_rows =>
      obtain ⟨d, inside, rfl⟩ := Export.isAt_of_find found
      exact .exported asked shown some_rows inside (FileSystem.node?_of_find found)

/-- A request of a run keeps to the domain of the run, whether it fails or not. -/
theorem MayAsk.extends {r : Request} (may : o.MayAsk date views r) (w : Workspace)
    (answer : r.Answer) (w' : Workspace) (answers : w.Answers r answer w') :
    w.Extends (o.domain date views) w' := by
  cases may with
  | look looks =>
      obtain ⟨-, rfl⟩ := answers.of_looks looks
      exact .of_files rfl
  | print t =>
      cases answers with
      | usual => exact .of_files rfl
      | unprinted part e => exact .of_files rfl
  | createFile own =>
      cases answers with
      | usual => exact Workspace.extends_createFile own.owns
      | noFile e => exact .of_files rfl
  | append own content =>
      cases answers with
      | usual => exact Workspace.extends_append own.owns content
      | unwritten part e => exact Workspace.extends_append own.owns _
  | createDirectory asked around =>
      cases answers with
      | usual =>
          exact Workspace.extends_createDirectory fun fs l found => .directory asked around found
      | noDirectory e => exact .of_files rfl

end requests

end Options

/-! ### What writing asks for -/

/-- Whether a cause is a file operation. -/
def Cause.IsIo (c : Cause) : Prop :=
  ∃ e, c = .io e

section keeps

variable {asks : Request → Prop}

theorem keeps_io {α : Type} (x : Except IoError α) :
    (Job.ofIo x).Keeps asks Cause.IsIo fun _ => True :=
  keeps_ofIo x fun e => ⟨e, rfl⟩

namespace Sink

variable {format : Format} {path : Text}

theorem keeps_toFile (h : asks (.createFile path)) :
    (toFile format path).Keeps asks Cause.IsIo fun s => s = start format (.file path) :=
  Keeps.bind (keeps_request h) fun answer _ => Keeps.bind (keeps_io answer) fun _ _ =>
    keeps_pure rfl

/-- The request with which a sink writes a text. -/
def request (s : Sink) (t : Text) : Request :=
  match s.target with
  | .output => .print t
  | .file path => .append path (encode t)

theorem keeps_finish {s : Sink} (h : asks (s.request s.pending)) :
    s.finish.Keeps asks Cause.IsIo fun _ => True := by
  have writes : (s.target.write s.pending).Keeps asks Cause.IsIo fun _ => True := by
    rw [request] at h
    cases target : s.target with
    | output | file path =>
        rw [target] at h
        exact Keeps.bind (keeps_request h) fun answer _ => keeps_io answer
  rw [finish]
  split
  · exact keeps_pure trivial
  · exact writes.bind fun _ _ => keeps_pure trivial

end Sink

namespace Export

variable {o : Options} {date : Date} {views : List View}

theorem keeps_write {directory : Text} {v : View}
    (own : v.rows ≠ [] → o.Writes date views (path directory v date)) :
    (write directory date v).Keeps (o.MayAsk date views) Cause.IsIo fun _ => True := by
  rw [write]
  split
  · exact keeps_pure trivial
  · rename_i some_rows
    have own := own (by simpa using some_rows)
    refine Keeps.bind ((Sink.keeps_toFile (.createFile own)).within _) fun s e => ?_
    rw [e, Sink.add_of_free rfl, pure_bind]
    exact Keeps.bind (Sink.keeps_finish (Options.MayAsk.append own _)) fun _ _ => keeps_pure trivial

theorem keeps_accepted (path : Text) (x : Except IoError Unit) :
    (createAll.accepted path x).Keeps (o.MayAsk date views) Cause.IsIo fun _ => True := by
  cases x with
  | ok a => exact keeps_pure trivial
  | error e =>
      refine Keeps.bind (keeps_request (.look rfl)) fun there _ => ?_
      split <;> exact keeps_pure trivial

theorem keeps_createAll {paths : List Text}
    (own : ∀ path ∈ paths, o.MayAsk date views (.createDirectory path)) :
    (createAll paths).Keeps (o.MayAsk date views) Cause.IsIo fun _ => True := by
  induction paths with
  | nil => exact keeps_pure trivial
  | cons path paths ih =>
      obtain ⟨here, outside⟩ := List.forall_mem_cons.mp own
      refine Keeps.bind (keeps_request here) fun answer _ => ?_
      split
      · exact keeps_pure trivial
      · refine Keeps.bind (ih outside) fun _ _ => Keeps.bind (keeps_request here) fun again _ => ?_
        exact Keeps.bind (keeps_accepted path again) fun x _ => keeps_io x
      · exact Keeps.bind (keeps_accepted path _) fun x _ => keeps_io x

end Export

end keeps

namespace Options

section keeps

variable {o : Options} {date : Date} {views : List View} {format : Format}

theorem keeps_writeOutput (plain : format = .table → Path.isDash o.output = true)
    (room : format = .csv → views.length ≤ 1) :
    (o.writeOutput format views).Keeps (o.MayAsk date views) Cause.IsIo fun _ => True := by
  rw [writeOutput]
  cases dash : Path.isDash o.output with
  | true =>
      rw [Sink.create_output dash, pure_bind, addAll_start room, pure_bind]
      exact (Sink.keeps_finish (.print _)).within _
  | false =>
      have not_table : format ≠ .table := fun e => by
        rw [plain e] at dash
        cases dash
      have own : o.Writes date views o.output := .output dash
      rw [Sink.create_file dash not_table]
      refine Keeps.bind ((Sink.keeps_toFile (.createFile own)).within _) fun s e => ?_
      rw [e, addAll_start room, pure_bind]
      exact (Sink.keeps_finish (.append own _)).within _

theorem keeps_exportAll {directory : Text} (asked : o.exportDirectory = some directory)
    {vs : List View} (shown : ∀ v ∈ vs, v ∈ views) :
    (exportAll directory date vs).Keeps (o.MayAsk date views) Cause.IsIo fun _ => True := by
  induction vs with
  | nil => exact keeps_pure trivial
  | cons v vs ih =>
      obtain ⟨first, rest⟩ := List.forall_mem_cons.mp shown
      exact Keeps.bind (Export.keeps_write (.exported asked first)) fun _ _ => ih rest

theorem keeps_exports :
    (o.exports date views).Keeps (o.MayAsk date views) Cause.IsIo fun _ => True := by
  rw [exports]
  split
  · rename_i directory asked
    have made : (Export.createDirectory directory).Keeps (o.MayAsk date views) Cause.IsIo
        fun _ => True :=
      (Export.keeps_createAll fun path around => .createDirectory asked around).within _
    exact made.bind fun _ _ => keeps_exportAll asked fun _ mem => mem
  · exact keeps_pure trivial

/-- Writing asks for what belongs to the run, and fails for a file operation alone. -/
theorem keeps_write (plain : format = .table → Path.isDash o.output = true)
    (room : format = .csv → views.length ≤ 1) :
    (o.write date format views).Keeps (o.MayAsk date views) Cause.IsIo fun _ => True := by
  rw [write_eq]
  exact Keeps.bind (keeps_writeOutput plain room) fun _ _ => keeps_exports

end keeps

/-! ### Writes that fail -/

/-- **A write that fails is reported.**  When rows are filtered and the sink is there, writing to it
can fail at any place, and then the run fails with the cause and says what it was about. -/
theorem Showing.goes_unwritten {o : Options} {date : Date} {w w₁ : Workspace} (s : o.Showing w)
    {sink : Sink} (created : (Sink.create s.format o.output).runOn w = (.ok sink, w₁))
    (something : s.views.flatMap (·.textIn s.format) ≠ []) (part : Text) (e : IoError) :
    (o.run date).Goes w
      (.error ((Failure.of (.io e)).within "Sink: Failed to finalize output"))
      (sink.target.after w₁ part) := by
  obtain ⟨format, -, taken, written, -, whole⟩ := Sink.carries_create created
  have pending : sink.pending = [] := (List.append_eq_nil_iff.mp whole).2
  have room : sink.format = .csv → sink.taken + s.views.length ≤ 1 := fun csv => by
    rw [taken, List.length_nil, Nat.zero_add]
    exact s.room (format ▸ csv)
  have created' : (Sink.create s.format o.output).Goes w (.ok sink) w₁ := by
    have goes := goes_runOn (Sink.create s.format o.output) w
    rwa [created] at goes
  have unwritten : (o.writeOutput s.format s.views).Goes w
      (.error ((Failure.of (.io e)).within "Sink: Failed to finalize output"))
      (sink.target.after w₁ part) := by
    refine created'.bind ?_
    rw [addAll_eq room, pure_bind, pending, format]
    exact (Sink.goes_finish_error (by simpa using something) w₁ part e).within_error _
  rw [goes_iff_of_settle s.settle, write_eq]
  exact (unwritten.bind_error _).bind_error _

/-! ### Every run -/

theorem Refusal.isOther {o : Options} {w : Workspace} {f : Failure} (h : o.Refusal w f) :
    f.cause.IsOther := by
  cases h with
  | datasets refused => exact (looks_loadDatasets o).fails refused
  | selection loads refused => exact (looks_selectDataset o _).fails refused
  | format selects shows refused => exact (looks_resolveFormat o).fails refused
  | conditions selects shows formats refused =>
      exact (looks_resolveClause o _).fails refused
  | several resolves more => exact Cause.isOther_rule (by decide)
  | filter resolves fits refused => exact nofun
  | table s format file => exact Cause.isOther_rule (by decide)

/-- Whether a run prints the reference of a dataset. -/
def Describes (o : Options) (w : Workspace) : Prop :=
  o.describe = true ∧ ∃ datasets current, o.Selects w datasets current

/-- What may be said of a run that has come to a result and a workspace, if it fails while it writes
only in some ways.  A run that is refused has done nothing, and there is no other failure; that of a
second view among comma-separated records never comes up.  Nothing is removed, files stay files and
directories stay directories, and whatever changes belongs to the run. -/
structure Confined (o : Options) (date : Date) (w : Workspace) (fails : Failure → Prop)
    (result : Except Failure Nat) (after : Workspace) : Prop where
  refused : ∀ f, o.Refusal w f → result = .error f ∧ after = w
  failed : ∀ f, result = .error f → (o.Refusal w f ∨ fails f) ∧ f.cause ≠ Sink.secondView.cause
  grows : w.files.Grows after.files
  owned : ∀ l, after.files.node? l ≠ w.files.node? l →
    ∃ s : o.Showing w, o.Owns date s.views after.files l

variable {o : Options} {date : Date} {w after : Workspace} {fails : Failure → Prop}
  {result : Except Failure Nat}

theorem Refusal.of_goes {f : Failure} (h : o.Refusal w f) (goes : (o.run date).Goes w result after) :
    result = .error f ∧ after = w := by
  have failed : (Job.fail f : Job Nat).Goes w result after := (goes_iff_of_settle h.settle).mp goes
  cases failed
  exact ⟨rfl, rfl⟩

theorem Refusal.confined {f : Failure} (h : o.Refusal w f)
    (goes : (o.run date).Goes w result after) : o.Confined date w fails result after := by
  obtain ⟨rfl, rfl⟩ := h.of_goes goes
  refine ⟨fun _ h' => h'.of_goes goes, fun f' e => ?_, .refl _, fun l changed => absurd rfl changed⟩
  cases e
  exact ⟨.inl h, h.isOther⟩

theorem Describes.of_goes (h : o.Describes w) (goes : (o.run date).Goes w result after) :
    after.files = w.files ∧ ∀ f, result = .error f → ∃ e, f = .printing e := by
  obtain ⟨describe, datasets, current, selects⟩ := h
  have printed : (printReference current).Goes w result after :=
    (goes_iff_of_settle (settle_of_describe selects describe)).mp goes
  rcases printed with _ | ⟨answers, rest⟩
  cases answers with
  | usual =>
      cases rest
      exact ⟨rfl, fun f e => by cases e⟩
  | unprinted _ part e =>
      cases rest
      exact ⟨rfl, fun f failed => ⟨e, (Except.error.inj failed).symm⟩⟩

theorem Describes.confined (h : o.Describes w) (goes : (o.run date).Goes w result after)
    (failed : ∀ f, result = .error f → fails f) : o.Confined date w fails result after := by
  obtain ⟨same, printing⟩ := h.of_goes goes
  refine ⟨fun _ h' => h'.of_goes goes, fun f here => ⟨.inr (failed f here), ?_⟩,
    same ▸ .refl w.files, fun l changed => absurd (by rw [same]) changed⟩
  obtain ⟨e, rfl⟩ := printing f here
  exact Cause.isOther_io e

theorem Showing.keeps (s : o.Showing w) (plain : s.format = .table → Path.isDash o.output = true) :
    (o.write date s.format s.views >>= fun _ =>
      pure (s.views.foldl (fun n v => n + v.shown) 0)).Keeps
        (o.MayAsk date s.views) Cause.IsIo fun _ => True :=
  Keeps.bind (keeps_write plain s.room) fun _ _ => keeps_pure trivial

theorem Showing.confined (s : o.Showing w) (plain : s.format = .table → Path.isDash o.output = true)
    (goes : (o.run date).Goes w result after)
    (failed : ∀ f, f.cause.IsIo → fails f) : o.Confined date w fails result after := by
  have written := (goes_iff_of_settle s.settle).mp goes
  have reached := (s.keeps plain).reaches (R := Workspace.Extends (o.domain date s.views))
    (fun _ may => may.extends) written
  refine ⟨fun _ h' => h'.of_goes goes, fun f e => ?_, reached.grows,
    fun l changed => ⟨s, reached.within l changed⟩⟩
  have io : f.cause.IsIo := (s.keeps plain).fails (e ▸ written)
  refine ⟨.inr (failed f io), ?_⟩
  obtain ⟨e, cause⟩ := io
  rw [cause]
  exact Cause.isOther_io e

/-- **A run changes what is its own, and nothing after a refusal.**  If whatever can be written is
written, a run fails only because it is refused or because a file or a directory that it needs cannot
be made.  In the world writing can fail at any time, with any part of the text written by then; a
run that is not refused then fails for that, and otherwise the same is true of it. -/
theorem run_confined (o : Options) (date : Date) (w : Workspace) :
    o.Confined date w (fun f => Nonempty (o.Showing w) ∧ f.cause.IsIo)
      ((o.run date).runOn w).1 ((o.run date).runOn w).2 ∧
    ∀ result after, (o.run date).Goes w result after →
      o.Confined date w
        (fun f => Nonempty (o.Showing w) ∧ f.cause.IsIo ∨ o.Describes w ∧ ∃ e, f = .printing e)
        result after := by
  have here := goes_runOn (o.run date) w
  rcases run_cases o w with ⟨f, refusal⟩ | ⟨datasets, current, selects, describe⟩ | ⟨s, plain⟩
  · exact ⟨refusal.confined here, fun result after goes => refusal.confined goes⟩
  · have describes : o.Describes w := ⟨describe, datasets, current, selects⟩
    have done : (o.run date).runOn w = (printReference current).runOn w :=
      runOn_eq_of_settle (settle_of_describe selects describe)
    refine ⟨describes.confined here fun f failed => ?_, fun result after goes => ?_⟩
    · rw [done] at failed
      cases failed
    · exact describes.confined goes fun f failed => .inr ⟨describes, (describes.of_goes goes).2 f failed⟩
  · exact ⟨s.confined plain here fun f io => ⟨⟨s⟩, io⟩,
      fun result after goes => s.confined plain goes fun f io => .inl ⟨⟨s⟩, io⟩⟩

/-- A table for a file that is there, and a directory for exports that is not. -/
theorem run_confined_table_in_file :
    let start : Workspace := ⟨⟨[(["a.csv".toList], .file (encode "x\n1\n".toList)),
      (["t.txt".toList], .file (encode "old".toList))], []⟩, []⟩
    let o : Options := { input := some "a.csv".toList, output := "t.txt".toList,
                         exportDirectory := some "out".toList }
    o.Refusal start tableInFile ∧
      (o.run ⟨2024, 1, 2⟩).runOn start = (.error tableInFile, start) := by
  intro start o
  have evaluated : (match ((o.run ⟨2024, 1, 2⟩).runOn start).1 with
      | .ok _ => none
      | .error f => some f) = some tableInFile := by decide +kernel
  -- from here on the files are not evaluated any more
  clear_value start
  obtain ⟨f, refusal⟩ : ∃ f, o.Refusal start f := by
    rcases run_cases o start with refused | ⟨_, _, _, describe⟩ | ⟨s, plain⟩
    · exact refused
    · cases describe
    · have format : (.ok .table : Except Failure Format) = .ok s.format := s.resolves.formats
      cases plain (Except.ok.inj format).symm
  obtain ⟨failed, same⟩ := (run_confined o ⟨2024, 1, 2⟩ start).1.refused f refusal
  rw [failed] at evaluated
  obtain rfl : f = tableInFile := Option.some.inj evaluated
  exact ⟨refusal, Prod.ext failed same⟩

end Options

end Tabular
