import Mathlib.Data.List.Nodup
import Tabular.Proofs.Run.Effects

/-! # The exports of a run

Every export is stored under a name in the directory for exports, and two exports of one name are
stored in one place.  So of the views with rows whose names agree but for the characters that
separate pieces of a path, the last one is left (`exports_of_run`); if no two names agree, every view
with rows has a file of its own. -/

namespace Tabular

open Job
open Utf8 (encode)

/-! ### Storing a text -/

namespace Workspace

variable {w w' : Workspace} {path t : Text}

/-- Whether a text is stored at a path, in the place of the file that is there. -/
def Stores (path t : Text) (w w' : Workspace) : Prop :=
  ∃ l, w.files.Leads path l ∧ w.files.node? l ≠ some .directory ∧
    w' = { w with files := w.files.put l (.file (encode t)) }

theorem Stores.grows (h : w.Stores path t w') : w.files.Grows w'.files := by
  obtain ⟨l, -, keep, rfl⟩ := h
  exact FileSystem.grows_put_file keep _

theorem Stores.holds (h : w.Stores path t w') : w'.files.Holds path (encode t) := by
  obtain ⟨l, leads, keep, rfl⟩ := h
  exact FileSystem.holds_put leads keep _

end Workspace

theorem Sink.stores_finish {s : Sink} {w : Workspace} {path : Text} {files : FileSystem}
    (made : w.files.createFile path = .ok files) (target : s.target = .file path) :
    ∃ w', w.Stores path s.pending w' ∧
      s.finish.runOn { w with files } = (.ok { s with pending := [] }, w') := by
  obtain ⟨l, leads, keep, rfl⟩ := FileSystem.exists_of_createFile made
  refine ⟨_, ⟨l, leads, keep, rfl⟩, ?_⟩
  obtain ⟨format, target', taken, pending⟩ := s
  obtain rfl : target' = .file path := target
  rw [runOn_finish]
  cases pending with
  | nil => rfl
  | cons c pending =>
      rw [if_neg (by simp), Target.after, FileSystem.append,
        (leads.put keep _).find (FileSystem.node?_put_self leads.ne_nil _)]
      dsimp only
      rw [FileSystem.put_put, List.nil_append]

namespace Export

/-! ### Names -/

theorem fileName_inj {a b : Text} {date : Date} :
    fileName a date = fileName b date ↔ plainName a = plainName b := by
  rw [fileName, fileName, List.append_left_inj, List.append_left_inj, List.append_left_inj]

/-- The view whose export is left under a name: the last one with rows and this name. -/
def left? (date : Date) (views : List View) (name : Text) : Option View :=
  views.reverse.find? fun v => !v.rows.isEmpty && fileName v.dataset.displayName date = name

variable {date : Date} {v : View} {vs : List View} {name : Text}

theorem left?_cons :
    left? date (v :: vs) name = (left? date vs name).or
      (if v.rows ≠ [] ∧ fileName v.dataset.displayName date = name then some v else none) := by
  rw [left?, List.reverse_cons, List.find?_append, List.find?_singleton]
  simp [left?]

theorem exists_left? (mem : v ∈ vs) (some_rows : v.rows ≠ []) :
    ∃ u, left? date vs (fileName v.dataset.displayName date) = some u := by
  rw [← Option.isSome_iff_exists, left?, List.find?_isSome]
  exact ⟨v, List.mem_reverse.mpr mem, by simpa using some_rows⟩

theorem of_left? (h : left? date vs name = some v) :
    (v ∈ vs.filter fun u => !u.rows.isEmpty) ∧ fileName v.dataset.displayName date = name := by
  have mem := List.mem_reverse.mp (List.mem_of_find?_eq_some h)
  have found := List.find?_some h
  rw [Bool.and_eq_true, decide_eq_true_eq] at found
  exact ⟨List.mem_filter.mpr ⟨mem, found.1⟩, found.2⟩

/-! ### Exports one after the other -/

variable {directory : Text} {w w' : Workspace}

/-- A view without rows is not exported; otherwise its text is stored, unless its file cannot be
made. -/
theorem runOn_write (directory : Text) (date : Date) (v : View) (w : Workspace) :
    (v.rows = [] ∧ (write directory date v).runOn w = (.ok none, w)) ∨
    (∃ f, f.cause.IsIo ∧ (write directory date v).runOn w = (.error f, w)) ∨
    (v.rows ≠ [] ∧ ∃ w', w.Stores (path directory v date) v.csvText w' ∧
      (write directory date v).runOn w = (.ok (some (path directory v date)), w')) := by
  by_cases empty : v.rows = []
  · refine .inl ⟨empty, ?_⟩
    rw [write, empty]
    rfl
  have rows : ¬ v.rows.isEmpty = true := by simpa using empty
  have opened := Sink.runOn_toFile .csv (path directory v date) w
  cases made : w.files.createFile (path directory v date) with
  | error e =>
      rw [made] at opened
      obtain ⟨context, failed⟩ : ∃ context, (write directory date v).runOn w =
          (.error ((Failure.of (.io e)).within context), w) := by
        rw [write, if_neg rows]
        exact ⟨_, runOn_bind_error (runOn_within_error opened) _⟩
      exact .inr (.inl ⟨_, ⟨e, rfl⟩, failed⟩)
  | ok files =>
      rw [made] at opened
      obtain ⟨w', stored, finished⟩ := Sink.stores_finish
        (s := ⟨.csv, .file (path directory v date), 1, v.csvText⟩) made rfl
      refine .inr (.inr ⟨empty, w', stored, ?_⟩)
      rw [write, if_neg rows, runOn_bind_ok (runOn_within_ok opened), Sink.add_of_free rfl,
        pure_bind]
      exact runOn_bind_ok finished _

/-- What is stored under one name leaves the file under another name as it was. -/
theorem holds_of_stores {name' t : Text} {c : Bytes} (plain : '/' ∉ name) (plain' : '/' ∉ name')
    (other : name' ≠ name) (stores : w.Stores (Path.join directory name) t w')
    (holds : w.files.Holds (Path.join directory name') c) :
    w'.files.Holds (Path.join directory name') c := by
  have grows := stores.grows
  obtain ⟨l, leads, keep, rfl⟩ := stores
  obtain ⟨l', leads', found⟩ := holds
  refine ⟨l', leads'.grows grows, ?_⟩
  obtain ⟨d, inside, rfl⟩ := leads.of_join plain
  obtain ⟨d', inside', rfl⟩ := leads'.of_join plain'
  obtain rfl := inside.unique inside'
  rw [FileSystem.node?_put_of_ne _ _, found]
  exact fun same => other (List.singleton_inj.mp (List.append_cancel_left same))

/-- After all exports a file holds the view that is left under its name; if there is none, it holds
what it held before. -/
theorem holds_of_exportAll (plain : '/' ∉ name)
    (run : (Options.exportAll directory date vs).runOn w = (.ok (), w')) :
    (∀ v, left? date vs name = some v → w'.files.Holds (Path.join directory name) (encode v.csvText)) ∧
    (left? date vs name = none → ∀ c, w.files.Holds (Path.join directory name) c →
      w'.files.Holds (Path.join directory name) c) := by
  induction vs generalizing w with
  | nil =>
      cases run
      exact ⟨fun v h => (nomatch h), fun _ c holds => holds⟩
  | cons v vs ih =>
      rw [Options.exportAll] at run
      rw [left?_cons]
      rcases runOn_write directory date v w with
        ⟨empty, first⟩ | ⟨f, -, first⟩ | ⟨some_rows, w₁, stores, first⟩
      · rw [runOn_bind_ok first] at run
        rw [if_neg fun h => h.1 empty, Option.or_none]
        exact ih run
      · rw [runOn_bind_error first] at run
        cases run
      · rw [runOn_bind_ok first] at run
        obtain ⟨later, kept⟩ := ih run
        cases last : left? date vs name with
        | some u =>
            rw [Option.some_or]
            exact ⟨fun v' e => later v' (last.trans e), fun e => (nomatch e)⟩
        | none =>
            rw [Option.none_or]
            by_cases here : fileName v.dataset.displayName date = name
            · rw [if_pos ⟨some_rows, here⟩]
              refine ⟨fun v' e => ?_, fun e => (nomatch e)⟩
              cases e
              have stored := stores.holds
              rw [path, here] at stored
              exact kept last _ stored
            · rw [if_neg fun h => here h.2]
              refine ⟨fun v' e => (nomatch e), fun _ c holds => kept last c ?_⟩
              exact holds_of_stores (notMem_fileName _ date) plain (Ne.symm here) stores holds

end Export

/-! ### Every run -/

namespace Options

variable {o : Options} {date : Date} {w after : Workspace} {directory : Text} {n : Nat}

theorem exists_of_run (asked : o.exportDirectory = some directory) (shows : o.describe = false)
    (run : (o.run date).runOn w = (.ok n, after)) :
    ∃ (s : o.Showing w) (w' : Workspace),
      (exportAll directory date s.views).runOn w' = (.ok (), after) := by
  rcases run_cases o w with ⟨f, refusal⟩ | ⟨_, _, _, describe⟩ | ⟨s, -⟩
  · rw [refusal.run] at run
    cases run
  · rw [shows] at describe
    cases describe
  · rw [s.run, write_eq] at run
    obtain ⟨_, w₁, written, shown⟩ := exists_of_runOn_bind run
    cases shown
    obtain ⟨_, w₂, -, exported⟩ := exists_of_runOn_bind written
    rw [exports, asked] at exported
    obtain ⟨_, w₃, -, exported⟩ := exists_of_runOn_bind exported
    exact ⟨s, w₃, exported⟩

/-- **What is left of the exports.**  When a run with a directory for exports has succeeded, there is
a file in the directory under the name of every view with rows, and it holds the records of the last
view with rows whose file has this name.  If the names of the datasets of these views differ even
when the separators in them are replaced, every one of them has a file of its own with its own
records. -/
theorem exports_of_run (asked : o.exportDirectory = some directory) (shows : o.describe = false)
    (run : (o.run date).runOn w = (.ok n, after)) :
    ∃ s : o.Showing w, s.views.map View.dataset = o.selected s.datasets s.current ∧
      let fileOf (v : View) := Export.fileName v.dataset.displayName date
      let exported := s.views.filter fun v => !v.rows.isEmpty
      (∀ v ∈ exported, ∃ d u, after.files.IsAt directory d ∧
        Export.left? date s.views (fileOf v) = some u ∧
        after.files.node? (d ++ [fileOf v]) = some (.file (encode u.csvText))) ∧
      ((exported.map fun v => Export.plainName v.dataset.displayName).Nodup →
        (exported.map fileOf).Nodup ∧
        ∀ v ∈ exported, ∃ d, after.files.IsAt directory d ∧
          after.files.node? (d ++ [fileOf v]) = some (.file (encode v.csvText))) := by
  obtain ⟨s, w', exporting⟩ := exists_of_run asked shows run
  refine ⟨s, s.map_dataset, ?_⟩
  intro fileOf exported
  have left : ∀ v ∈ exported, ∃ d u, after.files.IsAt directory d ∧
      Export.left? date s.views (fileOf v) = some u ∧
      after.files.node? (d ++ [fileOf v]) = some (.file (encode u.csvText)) := by
    intro v mem
    obtain ⟨shown, some_rows⟩ := List.mem_filter.mp mem
    obtain ⟨u, last⟩ : ∃ u, Export.left? date s.views (fileOf v) = some u :=
      Export.exists_left? shown (by simpa using some_rows)
    have plain := Export.notMem_fileName v.dataset.displayName date
    obtain ⟨d, inside, found⟩ := ((Export.holds_of_exportAll plain exporting).1 u last).of_join plain
    exact ⟨d, u, inside, last, found⟩
  refine ⟨left, fun distinct => ⟨?_, fun v mem => ?_⟩⟩
  · rw [List.Nodup, List.pairwise_map] at distinct ⊢
    exact distinct.imp fun other same => other (Export.fileName_inj.mp same)
  · obtain ⟨d, u, inside, last, found⟩ := left v mem
    obtain ⟨mem', same⟩ := Export.of_left? last
    obtain rfl : u = v := List.inj_on_of_nodup_map distinct mem' mem (Export.fileName_inj.mp same)
    exact ⟨d, inside, found⟩

/-- Two datasets with names that stay apart, one of them with a separator. -/
theorem exports_of_run_two_files :
    let catalog := "\x7b\"datasets\":[\x7b\"key\":\"a\",\"path\":\"a.csv\",\"name\":\"R/D\"\x7d,
      \x7b\"key\":\"b\",\"path\":\"a.csv\"\x7d]\x7d".toList
    let start : Workspace := ⟨⟨[(["c.json".toList], .file (encode catalog)),
      (["a.csv".toList], .file (encode "x\r\n1\r\n".toList))], []⟩, []⟩
    let o : Options := { datasets := some "c.json".toList, all := true,
                         exportDirectory := some "out".toList }
    ∃ after, (o.run ⟨2024, 1, 2⟩).runOn start = (.ok 2, after) ∧ ∃ s : o.Showing start,
      let exported := s.views.filter fun v => !v.rows.isEmpty
      (exported.map fun v => Export.plainName v.dataset.displayName).Nodup ∧
      ∀ v ∈ exported, ∃ d, after.files.IsAt "out".toList d ∧
        after.files.node? (d ++ [Export.fileName v.dataset.displayName ⟨2024, 1, 2⟩]) =
          some (.file (encode v.csvText)) := by
  intro catalog start o
  have counted : ((o.run ⟨2024, 1, 2⟩).runOn start).1.toOption = some 2 := by decide +kernel
  have evaluated : (o.loadDatasets.runOn start).1.toOption.map
      (·.map fun d => Export.plainName d.displayName) = some ["R_D".toList, "b".toList] := by
    decide +kernel
  -- from here on the files are not evaluated any more
  clear_value start
  obtain ⟨total, done, rfl⟩ : ∃ total, ((o.run ⟨2024, 1, 2⟩).runOn start).1 = .ok total ∧ total = 2 :=
    exists_of_toOption_map (f := fun total => total) (by rw [counted]; rfl)
  have run : (o.run ⟨2024, 1, 2⟩).runOn start = (.ok 2, ((o.run ⟨2024, 1, 2⟩).runOn start).2) :=
    Prod.ext done rfl
  obtain ⟨s, datasets, -, own⟩ := exports_of_run (show o.exportDirectory = some "out".toList from rfl)
    rfl run
  obtain ⟨loaded, loads, names⟩ := exists_of_toOption_map evaluated
  obtain rfl : loaded = s.datasets := Except.ok.inj (loads.symm.trans s.resolves.loads)
  have distinct : (s.views.map fun v => Export.plainName v.dataset.displayName).Nodup := by
    have all : s.views.map View.dataset = s.datasets := datasets
    rw [← all, List.map_map] at names
    exact names ▸ (by decide : ["R_D".toList, "b".toList].Nodup)
  have apart : ((s.views.filter fun v => !v.rows.isEmpty).map fun v =>
      Export.plainName v.dataset.displayName).Nodup :=
    distinct.sublist (List.filter_sublist.map _)
  exact ⟨_, run, s, apart, (own apart).2⟩

/-- Two datasets whose names differ in a separator alone: both have rows and the run succeeds, but
the records of one of them are in no file. -/
theorem exports_of_run_two_names :
    let catalog := "\x7b\"datasets\":[\x7b\"key\":\"a\",\"path\":\"a.csv\",\"name\":\"R/D\"\x7d,
      \x7b\"key\":\"b\",\"path\":\"b.csv\",\"name\":\"R_D\"\x7d]\x7d".toList
    let start : Workspace := ⟨⟨[(["c.json".toList], .file (encode catalog)),
      (["a.csv".toList], .file (encode "x\r\n1\r\n".toList)),
      (["b.csv".toList], .file (encode "y\r\n2\r\n".toList))], []⟩, []⟩
    let o : Options := { datasets := some "c.json".toList, all := true, format := some .jsonl,
                         exportDirectory := some "out".toList }
    let ran := (o.run ⟨2024, 1, 2⟩).runOn start
    ran.1 = .ok 2 ∧ ∃ s : o.Showing start, (∀ v ∈ s.views, v.rows ≠ []) ∧
      ∃ v ∈ s.views, ∀ l, ran.2.files.node? l ≠ some (.file (encode v.csvText)) := by
  intro catalog start o ran
  have counted : ran.1.toOption = some 2 := by decide +kernel
  have stored : ran.2.files.entries.all (·.2 ≠ .file (encode "x\n1\n".toList)) = true := by
    decide +kernel
  have evaluated : (o.loadDatasets.runOn start).1.toOption.map (fun datasets =>
      (Dataset.views [] none datasets).toOption.map (·.map fun v => (v.csvText, v.rows.isEmpty))) =
      some (some [("x\n1\n".toList, false), ("y\n2\n".toList, false)]) := by decide +kernel
  have runs : ran = (o.run ⟨2024, 1, 2⟩).runOn start := rfl
  -- from here on the run and the files are not evaluated any more
  clear_value ran start
  obtain ⟨total, done, rfl⟩ : ∃ total, ran.1 = .ok total ∧ total = 2 :=
    exists_of_toOption_map (f := fun total => total) (by rw [counted]; rfl)
  refine ⟨done, ?_⟩
  rcases run_cases o start with ⟨f, refusal⟩ | ⟨_, _, _, describe⟩ | ⟨s, -⟩
  · rw [runs, refusal.run] at done
    cases done
  · cases describe
  have clause : (.ok [] : Except Failure Text) = .ok s.clause := s.resolves.words
  have filtered : Dataset.views s.clause none s.datasets = .ok s.views := s.filtered
  rw [← Except.ok.inj clause] at filtered
  obtain ⟨datasets, loads, e⟩ := exists_of_toOption_map evaluated
  obtain rfl : datasets = s.datasets := Except.ok.inj (loads.symm.trans s.resolves.loads)
  rw [filtered] at e
  have shown : s.views.map (fun v => (v.csvText, v.rows.isEmpty)) =
      [("x\n1\n".toList, false), ("y\n2\n".toList, false)] := Option.some.inj e
  obtain ⟨v, rest, two, first, others⟩ := List.map_eq_cons_iff.mp shown
  obtain ⟨u, rest', rfl, second, none_left⟩ := List.map_eq_cons_iff.mp others
  obtain rfl := List.map_eq_nil_iff.mp none_left
  obtain ⟨text, some_rows⟩ := Prod.mk.inj first
  obtain ⟨-, some_rows'⟩ := Prod.mk.inj second
  refine ⟨s, ?_, v, by rw [two]; exact List.mem_cons_self, fun l found => ?_⟩
  · rw [two]
    exact List.forall_mem_cons.mpr ⟨by simpa using some_rows,
      List.forall_mem_cons.mpr ⟨by simpa using some_rows', nofun⟩⟩
  · rw [text] at found
    have entry := FileSystem.mem_entries_of_node? found
    exact absurd rfl (of_decide_eq_true (List.all_eq_true.mp stored _ entry))

end Options

end Tabular
