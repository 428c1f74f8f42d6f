import Tabular.Proofs.Sink
import Tabular.Run

/-! # The stages of a run

Everything that a run does before it writes only looks at the workspace: loading datasets
(`looks_loadDatasets`), selecting one, finding the format and the text of the clause
(`looks_resolveClause`).  So a run either is refused at one of these stages (`Options.Refusal`) and
nothing has happened, or prints the reference of a dataset, or writes the views that the stages have
led to (`Options.Showing`); there is nothing else (`run_cases`). -/

namespace Tabular

open Job

/-! ### Jobs that only look -/

/-- Whether a cause is another one than that of a second view among comma-separated records. -/
def Cause.IsOther (c : Cause) : Prop :=
  c ≠ Sink.secondView.cause

theorem Cause.isOther_io (e : IoError) : (io e).IsOther :=
  nofun

theorem Cause.isOther_rule {message : String} (h : message.toList.head? ≠ some 'S') :
    (rule message).IsOther := by
  intro e
  cases e
  exact h rfl

theorem looks_load (key path : Text) (info : Info) :
    (Dataset.load key path info).Looks Cause.IsOther := by
  refine Looks.bind (Keeps.within ?_ _) fun opened => Keeps.within ?_ _
  · exact Looks.bind (keeps_request rfl) fun x => keeps_ofIo x Cause.isOther_io
  · refine Looks.bind (keeps_ofIo opened Cause.isOther_io) fun bytes => ?_
    split
    · exact keeps_pure trivial
    · rename_i e _
      refine keeps_fail ?_
      rw [Failure.ofRecords]
      split <;> exact nofun

theorem looks_loadAll (directory : Text) (entries : List Entry) :
    (Entry.loadAll directory entries).Looks Cause.IsOther := by
  induction entries with
  | nil => exact keeps_pure trivial
  | cons e entries ih =>
      exact Looks.bind ((looks_load ..).within _) fun d => Looks.bind ih fun rest => keeps_pure trivial

namespace Catalog

theorem looks_findExtended (path : Text) (readers : List (Text × SettingsReader)) :
    (findExtended path readers).Looks Cause.IsOther := by
  induction readers with
  | nil => exact keeps_pure trivial
  | cons r readers ih =>
      refine Looks.bind (keeps_request rfl) fun found => ?_
      split
      · exact keeps_pure trivial
      · exact ih

theorem looks_find (path : Text) : (find path).Looks Cause.IsOther := by
  refine Looks.bind (keeps_request rfl) fun found => ?_
  split
  · split
    · exact keeps_pure trivial
    · exact keeps_fail nofun
  · dsimp only
    split <;> refine Looks.bind ?_ fun found => ?_
    · exact looks_findExtended path readers
    · split
      · exact keeps_pure trivial
      · exact keeps_fail nofun
    · exact keeps_pure trivial
    · split
      · exact keeps_pure trivial
      · exact keeps_fail nofun

theorem looks_readText (path : Text) : (readText path).Looks Cause.IsOther := by
  refine Looks.bind (keeps_request rfl) fun answer => ?_
  split
  · exact keeps_pure trivial
  · exact keeps_fail nofun
  · exact keeps_fail nofun

theorem looks_load (path : Text) : (load path).Looks Cause.IsOther := by
  refine Looks.bind (looks_find path) fun (file, reader) => ?_
  refine Looks.bind (looks_readText file) fun t => ?_
  refine Looks.bind (keeps_ofExcept fun f e => ?_) fun entries => ?_
  · cases h : reader t >>= entriesOfSetting with
    | ok entries =>
        rw [h] at e
        cases e
    | error m =>
        rw [h] at e
        cases e
        exact nofun
  · split
    · refine keeps_fail (Cause.isOther_rule ?_)
      simp only [String.toList_append, List.append_assoc]
      exact nofun
    · exact keeps_pure trivial

end Catalog

namespace Builder

theorem looks_readText (path : Text) : (readText path).Looks Cause.IsOther := by
  refine Looks.bind (keeps_request rfl) fun opened => ?_
  refine Looks.bind (keeps_ofIo opened Cause.isOther_io) fun answer => ?_
  refine Looks.bind (keeps_ofIo answer Cause.isOther_io) fun bytes => ?_
  split
  · exact keeps_pure trivial
  · exact keeps_fail nofun

theorem looks_load (headers : List Text) (path : Text) :
    (load headers path).Looks Cause.IsOther := by
  refine Looks.bind ((looks_readText path).within _) fun t => ?_
  refine Looks.bind (Keeps.within (keeps_ofExcept fun f e => ?_) _) fun entries => ?_
  · cases h : Entry.listOfText t with
    | ok entries =>
        rw [h] at e
        cases e
    | error m =>
        rw [h] at e
        cases e
        exact nofun
  · split
    · exact keeps_pure trivial
    · refine keeps_fail (Cause.isOther_rule ?_)
      simp only [String.toList_append, List.append_assoc]
      exact nofun

end Builder

theorem Dataset.map_dataset_views {clause : Text} {term : Option Text} {datasets : List Dataset}
    {views : List View} (h : Dataset.views clause term datasets = .ok views) :
    views.map View.dataset = datasets := by
  induction datasets generalizing views with
  | nil =>
      cases h
      rfl
  | cons d datasets ih =>
      obtain ⟨v, first, h⟩ := except_bind_eq_ok.mp h
      obtain ⟨rest, others, h⟩ := except_bind_eq_ok.mp h
      obtain ⟨rows, -, e⟩ := except_bind_eq_ok.mp first
      cases e
      cases h
      rw [List.map_cons, ih others]

namespace Options

theorem looks_loadDatasets (o : Options) : o.loadDatasets.Looks Cause.IsOther := by
  rw [loadDatasets]
  split
  · exact Looks.bind (looks_load ..) fun d => keeps_pure trivial
  · exact Looks.bind ((Catalog.looks_load _).within _) fun entries => looks_loadAll _ entries
  · exact keeps_fail (Cause.isOther_rule (by decide))

theorem looks_selectDataset (o : Options) (datasets : List Dataset) :
    (o.selectDataset datasets).Looks Cause.IsOther := by
  rw [selectDataset]
  split
  · exact keeps_pure trivial
  · refine keeps_fail (Cause.isOther_rule ?_)
    unfold Dataset.unknownMessage
    simp only [String.toList_append, List.append_assoc]
    exact nofun

theorem looks_resolveFormat (o : Options) : o.resolveFormat.Looks Cause.IsOther := by
  rw [resolveFormat]
  split
  · exact keeps_pure trivial
  · exact keeps_fail (Cause.isOther_rule (by decide))

theorem looks_resolveClause (o : Options) (headers : List Text) :
    (o.resolveClause headers).Looks Cause.IsOther := by
  rw [resolveClause]
  split
  · exact keeps_pure trivial
  · exact Looks.bind (Builder.looks_load ..) fun b => keeps_pure trivial
  · exact keeps_pure trivial

/-! ### Refusals -/

/-- The datasets that are shown. -/
def selected (o : Options) (datasets : List Dataset) (current : Dataset) : List Dataset :=
  if o.all then datasets else [current]

/-- Whether a run loads datasets and selects one of them. -/
structure Selects (o : Options) (w : Workspace) (datasets : List Dataset) (current : Dataset) :
    Prop where
  loads : (o.loadDatasets.runOn w).1 = .ok datasets
  chooses : ((o.selectDataset datasets).runOn w).1 = .ok current

/-- Whether a run also finds the format of the output and the text of the clause. -/
structure Resolves (o : Options) (w : Workspace) (datasets : List Dataset) (current : Dataset)
    (format : Format) (clause : Text) : Prop extends o.Selects w datasets current where
  shows : o.describe = false
  formats : (o.resolveFormat.runOn w).1 = .ok format
  words : ((o.resolveClause current.headers).runOn w).1 = .ok clause

/-- What a run has found before it writes. -/
structure Showing (o : Options) (w : Workspace) where
  datasets : List Dataset
  current : Dataset
  format : Format
  clause : Text
  views : List View
  resolves : o.Resolves w datasets current format clause
  /-- Comma-separated records hold one dataset. -/
  fits : ¬ (format = .csv ∧ 1 < (o.selected datasets current).length)
  filtered : Dataset.views clause o.search (o.selected datasets current) = .ok views

theorem Showing.map_dataset {o : Options} {w : Workspace} (s : o.Showing w) :
    s.views.map View.dataset = o.selected s.datasets s.current :=
  Dataset.map_dataset_views s.filtered

theorem Showing.room {o : Options} {w : Workspace} (s : o.Showing w) (csv : s.format = .csv) :
    s.views.length ≤ 1 := by
  have fits := s.fits
  rw [← s.map_dataset, List.length_map] at fits
  exact Nat.not_lt.mp fun more => fits ⟨csv, more⟩

/-- What is said about several datasets in comma-separated records. -/
def severalDatasets : Failure :=
  .rule "CLI: CSV output holds a single dataset; use jsonl or --export-dir"

/-- What is said about a table in a file. -/
def tableInFile : Failure :=
  .rule "CLI: Table output only goes to stdout; use csv or jsonl for files"

/-- The failures with which a run ends before it writes. -/
inductive Refusal (o : Options) (w : Workspace) : Failure → Prop where
  /-- A dataset cannot be loaded. -/
  | datasets {f : Failure} (refused : (o.loadDatasets.runOn w).1 = .error f) : Refusal o w f
  /-- There is no dataset with the key. -/
  | selection {f : Failure} {datasets : List Dataset}
      (loads : (o.loadDatasets.runOn w).1 = .ok datasets)
      (refused : ((o.selectDataset datasets).runOn w).1 = .error f) : Refusal o w f
  /-- There is no format for the output path. -/
  | format {f : Failure} {datasets : List Dataset} {current : Dataset}
      (selects : o.Selects w datasets current) (shows : o.describe = false)
      (refused : (o.resolveFormat.runOn w).1 = .error f) : Refusal o w f
  /-- The list of conditions cannot be loaded. -/
  | conditions {f : Failure} {datasets : List Dataset} {current : Dataset} {format : Format}
      (selects : o.Selects w datasets current) (shows : o.describe = false)
      (formats : (o.resolveFormat.runOn w).1 = .ok format)
      (refused : ((o.resolveClause current.headers).runOn w).1 = .error f) : Refusal o w f
  /-- There are several datasets for comma-separated records. -/
  | several {datasets : List Dataset} {current : Dataset} {clause : Text}
      (resolves : o.Resolves w datasets current .csv clause)
      (more : 1 < (o.selected datasets current).length) : Refusal o w severalDatasets
  /-- The rows cannot be filtered. -/
  | filter {datasets : List Dataset} {current : Dataset} {format : Format} {clause : Text}
      {e : FilterError} (resolves : o.Resolves w datasets current format clause)
      (fits : ¬ (format = .csv ∧ 1 < (o.selected datasets current).length))
      (refused : Dataset.views clause o.search (o.selected datasets current) = .error e) :
      Refusal o w (.of (.filter e))
  /-- A table is asked for in a file. -/
  | table (s : o.Showing w) (format : s.format = .table) (file : Path.isDash o.output = false) :
      Refusal o w tableInFile

variable {o : Options} {w w' : Workspace} {date : Date}

theorem settle_of_selects {datasets : List Dataset} {current : Dataset}
    (selects : o.Selects w datasets current) (shows : o.describe = false) :
    (o.run date).settle w = (o.showRows date datasets current).settle w := by
  rw [run, (looks_loadDatasets o).settle_bind_ok selects.loads,
    (looks_selectDataset o datasets).settle_bind_ok selects.chooses, shows]
  rfl

theorem settle_of_resolves {datasets : List Dataset} {current : Dataset} {format : Format}
    {clause : Text} (resolves : o.Resolves w datasets current format clause) :
    (o.run date).settle w = (show Job Nat from do
      if format = .csv && 1 < (o.selected datasets current).length then
        Job.fail severalDatasets
      let views ← Job.ofExcept
        ((Dataset.views clause o.search (o.selected datasets current)).mapError fun e =>
          .of (.filter e))
      o.write date format views
      return views.foldl (fun n v => n + v.shown) 0).settle w := by
  rw [settle_of_selects resolves.toSelects resolves.shows, showRows,
    (looks_resolveFormat o).settle_bind_ok resolves.formats,
    (looks_resolveClause o current.headers).settle_bind_ok resolves.words]
  rfl

theorem Showing.settle (s : o.Showing w) :
    (o.run date).settle w =
      (o.write date s.format s.views >>= fun _ =>
        pure (s.views.foldl (fun n v => n + v.shown) 0)).settle w := by
  rw [settle_of_resolves s.resolves, s.filtered, if_neg (by simpa using s.fits)]
  rfl

theorem Showing.run (s : o.Showing w) :
    (o.run date).runOn w =
      (o.write date s.format s.views >>= fun _ =>
        pure (s.views.foldl (fun n v => n + v.shown) 0)).runOn w :=
  runOn_eq_of_settle s.settle

/-- Prints the reference of a dataset. -/
def printReference (current : Dataset) : Job Nat := do
  match ← Job.request (.print current.reference) with
  | .ok _ => return 0
  | .error e => Job.fail (.printing e)

theorem settle_of_describe {datasets : List Dataset} {current : Dataset}
    (selects : o.Selects w datasets current) (describe : o.describe = true) :
    (o.run date).settle w = (printReference current).settle w := by
  rw [run, (looks_loadDatasets o).settle_bind_ok selects.loads,
    (looks_selectDataset o datasets).settle_bind_ok selects.chooses, describe]
  rfl

/-- A refused run comes to nothing but its failure. -/
theorem Refusal.settle {f : Failure} (h : o.Refusal w f) :
    (o.run date).settle w = (Job.fail f : Job Nat).settle w := by
  cases h with
  | datasets refused => exact (looks_loadDatasets o).settle_bind_error refused
  | selection loads refused =>
      rw [Options.run, (looks_loadDatasets o).settle_bind_ok loads]
      exact (looks_selectDataset o _).settle_bind_error refused
  | format selects shows refused =>
      rw [settle_of_selects selects shows]
      exact (looks_resolveFormat o).settle_bind_error refused
  | conditions selects shows formats refused =>
      rw [settle_of_selects selects shows, showRows, (looks_resolveFormat o).settle_bind_ok formats]
      exact (looks_resolveClause o _).settle_bind_error refused
  | several resolves more =>
      rw [settle_of_resolves resolves, if_pos (by simpa using more)]
      rfl
  | filter resolves fits refused =>
      rw [settle_of_resolves resolves, refused, if_neg (by simpa using fits)]
      rfl
  | table s format file =>
      rw [s.settle, write, format, Sink.create_table file]
      rfl

/-- **A refused run has done nothing.** -/
theorem Refusal.run {f : Failure} (h : o.Refusal w f) :
    (o.run date).runOn w = (.error f, w) :=
  runOn_eq_of_settle h.settle

/-- A run is refused, or describes a dataset, or writes. -/
theorem run_cases (o : Options) (w : Workspace) :
    (∃ f, o.Refusal w f) ∨
    (∃ datasets current, o.Selects w datasets current ∧ o.describe = true) ∨
    ∃ s : o.Showing w, s.format = .table → Path.isDash o.output = true := by
  cases loads : (o.loadDatasets.runOn w).1 with
  | error f => exact .inl ⟨f, .datasets loads⟩
  | ok datasets =>
  cases chooses : ((o.selectDataset datasets).runOn w).1 with
  | error f => exact .inl ⟨f, .selection loads chooses⟩
  | ok current =>
  have selects : o.Selects w datasets current := ⟨loads, chooses⟩
  cases shows : o.describe with
  | true => exact .inr (.inl ⟨datasets, current, selects, rfl⟩)
  | false =>
  cases formats : (o.resolveFormat.runOn w).1 with
  | error f => exact .inl ⟨f, .format selects shows formats⟩
  | ok format =>
  cases words : ((o.resolveClause current.headers).runOn w).1 with
  | error f => exact .inl ⟨f, .conditions selects shows formats words⟩
  | ok clause =>
  have resolves : o.Resolves w datasets current format clause := ⟨selects, shows, formats, words⟩
  by_cases several : format = .csv ∧ 1 < (o.selected datasets current).length
  · obtain ⟨rfl, more⟩ := several
    exact .inl ⟨_, .several resolves more⟩
  cases filtered : Dataset.views clause o.search (o.selected datasets current) with
  | error e => exact .inl ⟨_, .filter resolves several filtered⟩
  | ok views =>
  let s : o.Showing w := ⟨datasets, current, format, clause, views, resolves, several, filtered⟩
  by_cases table : format = .table ∧ Path.isDash o.output = false
  · exact .inl ⟨_, .table s table.1 table.2⟩
  · refine .inr (.inr ⟨s, fun e => ?_⟩)
    rw [not_and, Bool.not_eq_false] at table
    exact table e

end Options

end Tabular
