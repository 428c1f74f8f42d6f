import Mathlib.Data.List.TakeDrop
import Tabular.Proofs.Run.Effects

/-! # Formats that are detected

If no format is chosen, the output path decides: the dash stands for a table on the standard output,
and a file has the format for which its extension stands.  The extension is what follows the last
dot of the last name, unless this dot begins the name (`extension?_eq_some_iff`); so a dotfile has
none, and of several dots the last one counts.

A sink takes every format that is detected but one.  The extension of a text file stands for a
table, which no sink writes to a file: there detection succeeds, and the run is refused when its
rows have been filtered (`create_of_detected`). -/

namespace Tabular

open Job

/-! ### Extensions -/

namespace Path

variable {path name e : Text}

theorem cutName_of_notMem (h : '.' ∉ name) : cutName name = (name, none) := by
  have plain : ∀ c ∈ name.reverse, decide (c ≠ '.') = true := fun c mem =>
    decide_eq_true fun dot => h (by rwa [dot, List.mem_reverse] at mem)
  rw [cutName, List.span_eq_takeWhile_dropWhile, List.dropWhile_eq_nil_iff.mpr plain]

theorem snd_cutName_append (h : '.' ∉ e) (stem : Text) :
    (cutName (stem ++ '.' :: e)).2 = if stem = [] then none else some e := by
  have plain : ∀ c ∈ e.reverse, decide (c ≠ '.') = true := fun c mem =>
    decide_eq_true fun dot => h (by rwa [dot, List.mem_reverse] at mem)
  have cut : (stem ++ '.' :: e).reverse.span (· ≠ '.') = (e.reverse, '.' :: stem.reverse) := by
    rw [List.span_eq_takeWhile_dropWhile, List.reverse_append, List.reverse_cons,
      List.append_assoc, List.takeWhile_append_of_pos plain, List.dropWhile_append_of_pos plain]
    simp
  rw [cutName, cut]
  cases stem with
  | nil => rfl
  | cons c stem =>
      dsimp only
      rw [if_neg (by simp), if_neg (List.cons_ne_nil c stem)]
      exact congrArg some (List.reverse_reverse e)

theorem snd_cutName_eq_some_iff :
    (cutName name).2 = some e ↔ ∃ stem, stem ≠ [] ∧ '.' ∉ e ∧ name = stem ++ '.' :: e := by
  constructor
  · intro h
    by_cases dotted : '.' ∈ name
    · obtain ⟨ending, front, whole, plain⟩ :=
        List.eq_append_cons_of_mem (List.mem_reverse.mpr dotted)
      obtain rfl : name = front.reverse ++ '.' :: ending.reverse := by
        rw [← List.reverse_reverse name, whole, List.reverse_append, List.reverse_cons,
          List.append_assoc, List.singleton_append]
      have plain' : '.' ∉ ending.reverse := by simpa using plain
      rw [snd_cutName_append plain', Option.ite_none_left_eq_some, Option.some.injEq] at h
      obtain ⟨named, rfl⟩ := h
      exact ⟨front.reverse, named, plain', rfl⟩
    · rw [cutName_of_notMem dotted] at h
      cases h
  · rintro ⟨stem, named, plain, rfl⟩
    rw [snd_cutName_append plain, if_neg named]

/-- An extension follows the last dot of a name that does not begin with this dot. -/
theorem extension?_eq_some_iff :
    extension? path = some e ↔
      ∃ stem, stem ≠ [] ∧ '.' ∉ e ∧ name? path = some (stem ++ '.' :: e) := by
  rw [extension?, Option.bind_eq_some_iff]
  constructor
  · rintro ⟨name, named, h⟩
    obtain ⟨stem, front, plain, rfl⟩ := snd_cutName_eq_some_iff.mp h
    exact ⟨stem, front, plain, named⟩
  · rintro ⟨stem, front, plain, named⟩
    exact ⟨_, named, snd_cutName_eq_some_iff.mpr ⟨stem, front, plain, rfl⟩⟩

theorem name?_of_isDash (h : isDash path = true) : name? path = some ['-'] := by
  rw [isDash] at h
  cases split : pieces path with
  | nil =>
      rw [split] at h
      cases h
  | cons first rest =>
      rw [split] at h
      obtain ⟨dash, idle⟩ := Bool.and_eq_true_iff.mp h
      have last : dropIdle (first :: rest) = [['-']] := by
        have skipped : ∀ piece ∈ rest.reverse, isIdle piece = true := fun piece mem =>
          List.all_eq_true.mp idle piece (List.mem_reverse.mp mem)
        rw [dropIdle, List.reverse_cons, List.dropWhile_append_of_pos skipped, eq_of_beq dash]
        rfl
      rw [name?, split, last]
      rfl

theorem extension?_of_isDash (h : isDash path = true) : extension? path = none := by
  rw [extension?, name?_of_isDash h]
  rfl

end Path

/-! ### Detection -/

namespace Format

variable {output extension : Text}

/-- Whether the last name of a path is that of a text file, in any letter case. -/
def IsTextFile (output : Text) : Prop :=
  ∃ stem extension, stem ≠ [] ∧ '.' ∉ extension ∧
    Path.name? output = some (stem ++ '.' :: extension) ∧
    Unicode.lowerCase extension = "txt".toList

theorem isTextFile_iff :
    IsTextFile output ↔
      ∃ extension, Path.extension? output = some extension ∧
        Unicode.lowerCase extension = "txt".toList := by
  constructor
  · rintro ⟨stem, extension, front, plain, named, txt⟩
    exact ⟨extension, Path.extension?_eq_some_iff.mpr ⟨stem, front, plain, named⟩, txt⟩
  · rintro ⟨extension, h, txt⟩
    obtain ⟨stem, front, plain, named⟩ := Path.extension?_eq_some_iff.mp h
    exact ⟨stem, extension, front, plain, named, txt⟩

theorem IsTextFile.isDash (h : IsTextFile output) : Path.isDash output = false := by
  obtain ⟨extension, h, -⟩ := isTextFile_iff.mp h
  refine Bool.eq_false_iff.mpr fun dash => ?_
  rw [Path.extension?_of_isDash dash] at h
  cases h

theorem ofExtension?_eq_table_iff :
    ofExtension? extension = some .table ↔ Unicode.lowerCase extension = "txt".toList := by
  rw [ofExtension?]
  constructor
  · intro h
    split at h
    · cases h
    · split at h
      · cases h
      · split at h
        · assumption
        · cases h
  · intro txt
    rw [txt]
    decide

theorem ofOutput?_eq_table_iff :
    ofOutput? output = some .table ↔ Path.isDash output = true ∨ IsTextFile output := by
  rw [ofOutput?]
  cases dash : Path.isDash output with
  | true => exact iff_of_true rfl (.inl rfl)
  | false =>
      rw [if_neg Bool.false_ne_true, Option.bind_eq_some_iff, isTextFile_iff]
      simp only [ofExtension?_eq_table_iff, Bool.false_eq_true, false_or]

end Format

/-! ### Sinks for detected formats -/

namespace Options

open Format (IsTextFile)

variable {output : Text} {format : Format}

/-- Where a sink for an output path writes. -/
def targetOf (output : Text) : Target :=
  if Path.isDash output then .output else .file output

/-- A sink for a format that is detected is refused for a text file; otherwise it fails only if the
file cannot be made. -/
theorem runOn_create_of_detected (detected : Format.ofOutput? output = some format)
    (w : Workspace) :
    (IsTextFile output → format = .table ∧
      (Sink.create format output).runOn w = (.error tableInFile, w)) ∧
    (¬ IsTextFile output →
      (∃ w', (Sink.create format output).runOn w = (.ok (.start format (targetOf output)), w')) ∨
      ∃ f e, (Sink.create format output).runOn w = (.error f, w) ∧ f.cause = .io e ∧
        w.files.createFile output = .error e) := by
  refine ⟨fun text => ?_, fun other => ?_⟩
  · obtain rfl : .table = format :=
      Option.some.inj ((Format.ofOutput?_eq_table_iff.mpr (.inr text)).symm.trans detected)
    rw [Sink.create_table text.isDash]
    exact ⟨rfl, rfl⟩
  · rw [targetOf]
    cases dash : Path.isDash output with
    | true =>
        rw [Sink.create_output dash]
        exact .inl ⟨w, rfl⟩
    | false =>
        have plain : format ≠ .table := fun table => by
          rw [table, Format.ofOutput?_eq_table_iff, dash] at detected
          exact detected.elim Bool.false_ne_true other
        rw [Sink.runOn_create_file dash plain]
        cases made : w.files.createFile output with
        | ok files => exact .inl ⟨_, rfl⟩
        | error e => exact .inr ⟨_, e, rfl, rfl, rfl⟩

theorem Showing.detects {o : Options} {w : Workspace} (s : o.Showing w)
    (unchosen : o.format = none) : Format.ofOutput? o.output = some s.format := by
  have formats := s.resolves.formats
  rw [resolveFormat, unchosen, Format.resolve?, Option.none_or] at formats
  cases found : Format.ofOutput? o.output with
  | none =>
      rw [found] at formats
      cases formats
  | some format =>
      rw [found] at formats
      cases formats
      rfl

/-- **A detected format is refused for text files alone.**  If a format is detected for an output
path, the sink for both is refused exactly if the last name of the path ends in the extension of
text files; then the format is a table.  For every other path the sink is there, unless its file
cannot be made.  So of the runs without a chosen format that have filtered their rows, those on a
text file are refused, and those on another output fail only for a file operation. -/
theorem create_of_detected (detected : Format.resolve? none output = some format) (w : Workspace) :
    ((Sink.create format output).runOn w = (.error tableInFile, w) ↔ IsTextFile output) ∧
    (IsTextFile output → format = .table) ∧
    (¬ IsTextFile output →
      (∃ w', (Sink.create format output).runOn w = (.ok (.start format (targetOf output)), w')) ∨
      ∃ f e, (Sink.create format output).runOn w = (.error f, w) ∧ f.cause = .io e ∧
        w.files.createFile output = .error e) ∧
    ∀ o : Options, o.output = output → o.format = none → ∀ (_ : o.Showing w) (date : Date),
      (IsTextFile output → (o.run date).runOn w = (.error tableInFile, w)) ∧
      (¬ IsTextFile output → ∀ f, ((o.run date).runOn w).1 = .error f → f.cause.IsIo) := by
  obtain ⟨refused, made⟩ := runOn_create_of_detected detected w
  refine ⟨⟨fun failed => ?_, fun text => (refused text).2⟩, fun text => (refused text).1, made, ?_⟩
  · by_contra other
    rcases made other with ⟨w', run⟩ | ⟨f, e, run, cause, -⟩
    · rw [run] at failed
      cases failed
    · rw [run] at failed
      cases failed
      cases cause
  · rintro o rfl unchosen s date
    have found := s.detects unchosen
    refine ⟨fun text => ?_, fun other f failed => ?_⟩
    · have table : s.format = .table := ((runOn_create_of_detected found w).1 text).1
      exact (Refusal.table s table text.isDash).run
    · have plain : s.format = .table → Path.isDash o.output = true := fun table => by
        rw [table, Format.ofOutput?_eq_table_iff] at found
        exact found.resolve_right other
      have goes := goes_runOn (o.write date s.format s.views >>= fun _ =>
        pure (s.views.foldl (fun n v => n + v.shown) 0)) w
      rw [← s.run, failed] at goes
      exact (s.keeps plain).fails goes

/-- Of several dots the last one counts, and letter case does not. -/
theorem create_of_detected_letter_case :
    let start : Workspace := ⟨⟨[], []⟩, []⟩
    Format.resolve? none "x.txt.CSV".toList = some .csv ∧
      ∃ w', (Sink.create .csv "x.txt.CSV".toList).runOn start =
        (.ok (.start .csv (.file "x.txt.CSV".toList)), w') := by
  intro start
  have detected : Format.resolve? none "x.txt.CSV".toList = some .csv := by decide
  obtain ⟨-, table, made, -⟩ := create_of_detected detected start
  have other : ¬ IsTextFile "x.txt.CSV".toList := fun text => nomatch table text
  refine ⟨detected, (made other).resolve_right ?_⟩
  rintro ⟨f, e, -, -, failed⟩
  cases failed

/-- A table is detected for a text file, and then it is refused; no file operation has failed. -/
theorem create_of_detected_text_file :
    let start : Workspace := ⟨⟨[], []⟩, []⟩
    Format.resolve? none "out.txt".toList = some .table ∧
      (Sink.create .table "out.txt".toList).runOn start = (.error tableInFile, start) ∧
      ¬ tableInFile.cause.IsIo := by
  intro start
  refine ⟨by decide, by rw [Sink.create_table (by decide)]; rfl, ?_⟩
  rintro ⟨e, cause⟩
  cases cause

end Options

end Tabular
