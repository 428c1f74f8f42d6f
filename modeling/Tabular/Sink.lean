import Tabular.Failure
import Tabular.Format

/-! # Sinks and exports

A sink takes views and writes them in one format to the standard output or to a file.  What it has
taken is held back until the sink is finished.  Tables are for the standard output only, and
comma-separated records hold one view only.

An export writes a view to a file of its own that is named after the dataset and the day. -/

namespace Tabular

/-! ### Sinks -/

/-- Where a sink writes. -/
inductive Target where
  | output
  | file (path : Text)
  deriving DecidableEq, Repr

/-- Writes a text to a target. -/
def Target.write : Target → Text → Job Unit
  | output, t => do Job.ofIo (← Job.request (.print t))
  | file path, t => do Job.ofIo (← Job.request (.append path (Utf8.encode t)))

/-- A format, a place to write to, the number of views taken so far, and what is not yet written of
them. -/
structure Sink where
  format : Format
  target : Target
  taken : Nat
  pending : Text
  deriving DecidableEq, Repr

namespace Sink

/-- A sink that has taken nothing. -/
def start (format : Format) (target : Target) : Sink :=
  ⟨format, target, 0, []⟩

/-- A sink on a file, which is made empty at once. -/
def toFile (format : Format) (path : Text) : Job Sink := do
  Job.ofIo (← Job.request (.createFile path))
  return start format (.file path)

/-- A sink for a format and an output path. -/
def create (format : Format) (output : Text) : Job Sink := do
  if Path.isDash output then return start format .output
  if format = .table then
    Job.fail (.rule "CLI: Table output only goes to stdout; use csv or jsonl for files")
  Job.within s!"Sink: Failed to create {Path.quoted output}" (toFile format output)

/-- Takes a view. -/
def add (s : Sink) (v : View) : Job Sink := do
  if s.format = .csv && s.taken ≠ 0 then
    Job.fail (.rule "Sink: CSV output holds a single dataset")
  return { s with taken := s.taken + 1, pending := s.pending ++ v.textIn s.format }

/-- Writes what has been held back. -/
def finish (s : Sink) : Job Sink := do
  if s.pending.isEmpty then return s
  s.target.write s.pending
  return { s with pending := [] }

end Sink

/-! ### Dates -/

/-- A day of the calendar. -/
structure Date where
  year : Int
  month : Nat
  day : Nat
  deriving DecidableEq, Repr

namespace Date

/-- A number of at least as many digits. -/
def digits (places n : Nat) : Text :=
  let t := Number.natText n
  List.replicate (places - t.length) '0' ++ t

/-- The year in four digits, the month and the day in two. -/
def text (d : Date) : Text :=
  (if d.year < 0 then ['-'] else []) ++ digits 4 d.year.natAbs ++
    '-' :: digits 2 d.month ++ '-' :: digits 2 d.day

/-! ### Counting days -/

/-- The days of four hundred years. -/
def cycleDays : Int := 146097

/-- The day that is so many days after the first of January 1970.  Years are counted from the first
of March, so that a leap day is the last day of its year. -/
def ofUnixDays (days : Int) : Date :=
  let shifted := days + 719468
  let cycle := Int.fdiv shifted cycleDays
  let n := (shifted - cycle * cycleDays).toNat
  let year := (n - n / 1460 + n / 36524 - n / 146096) / 365
  let day := n - (365 * year + year / 4 - year / 100)
  let month := (5 * day + 2) / 153
  let first : Int := year + cycle * 400
  ⟨if month < 10 then first else first + 1, if month < 10 then month + 3 else month - 9,
    day - (153 * month + 2) / 5 + 1⟩

end Date

/-! ### Files for views -/

namespace Export

/-- A name without the characters that separate the pieces of a path. -/
def plainName (name : Text) : Text :=
  name.map fun c => if c = '/' || c = '\\' then '_' else c

/-- The name of the file for a dataset of this name. -/
def fileName (name : Text) (date : Date) : Text :=
  plainName name ++ "_export_".toList ++ date.text ++ ".csv".toList

/-- The path of the file for a view. -/
def path (directory : Text) (v : View) (date : Date) : Text :=
  Path.join directory (fileName v.dataset.displayName date)

/-- Writes a view with rows to its file, and gives its path. -/
def write (directory : Text) (date : Date) (v : View) : Job (Option Text) := do
  if v.rows.isEmpty then return none
  let path := path directory v date
  let sink ← Job.within s!"Sink: Failed to create export file {Path.quoted path}"
    (Sink.toFile .csv path)
  let _ ← (← sink.add v).finish
  return some path

/-- The paths of the directory and of those around it, the inmost first; there are at most
`steps`. -/
def ancestors : (steps : Nat) → Text → List Text
  | 0, _ => []
  | steps + 1, path =>
    if path.isEmpty then []
    else path :: ((Path.parent? path).elim [] (ancestors steps))

/-- Makes the first of some directories and, where they are missing, those around it. -/
def createAll : List Text → Job Unit
  | [] => pure ()
  | path :: outer => do
    match ← Job.request (.createDirectory path) with
    | .ok _ => pure ()
    | .error .notFound =>
      createAll outer
      Job.ofIo (← accepted path (← Job.request (.createDirectory path)))
    | .error e => Job.ofIo (← accepted path (.error e))
where
  /-- A failure to make a directory is none if the directory is there. -/
  accepted (path : Text) : Except IoError Unit → Job (Except IoError Unit)
    | .ok _ => return .ok ()
    | .error e => return if ← Job.request (.isDirectory path) then .ok () else .error e

/-- Makes a directory with all those around it. -/
def createDirectory (directory : Text) : Job Unit :=
  Job.within s!"Sink: Failed to create export directory {Path.quoted directory}"
    (createAll (ancestors (directory.length + 1) directory))

end Export

end Tabular
