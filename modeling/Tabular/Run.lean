import Tabular.Builder.Load
import Tabular.Catalog
import Tabular.CommandLine.Options
import Tabular.Dataset
import Tabular.Dataset.Reference
import Tabular.Sink

/-! # A run

A run loads datasets, selects some of them, filters their rows and writes what is left: to the
output first, and then to files of their own if there is a directory for them.  Everything that can
be refused without writing is refused before anything is written. -/

namespace Tabular

namespace Options

/-! ### Datasets -/

/-- The dataset of a single file, named after the file. -/
def loadInput (path : Text) : Job (List Dataset) := do
  let key := (Path.stem? path).getD "input".toList
  return [← Dataset.load key path ⟨key, none, none, none⟩]

/-- The datasets of a catalog. -/
def loadCatalog (path : Text) : Job (List Dataset) := do
  let entries ← Job.within s!"Config: Failed to load {Path.quoted path}" (Catalog.load path)
  Entry.loadAll (Catalog.directory path) entries

/-- The datasets that the options name. -/
def loadDatasets (o : Options) : Job (List Dataset) :=
  match o.input, o.datasets with
  | some path, _ => loadInput path
  | none, some path => loadCatalog path
  | none, none => Job.fail (.rule "CLI: Provide --input <CSV> or --datasets <YAML>")

/-- The dataset that the options select. -/
def selectDataset (o : Options) (datasets : List Dataset) : Job Dataset :=
  match (Dataset.select? datasets o.dataset).bind fun i => datasets[i]? with
  | some d => pure d
  | none => Job.fail (.rule (Dataset.unknownMessage datasets (o.dataset.getD [])))

/-! ### Rows -/

/-- The text of the clause: as it is given, as it is built from a list of conditions, or none. -/
def resolveClause (o : Options) (headers : List Text) : Job Text :=
  match o.clause, o.conditions with
  | some t, _ => pure t
  | none, some path => do return (← Builder.load headers path).clauseText
  | none, none => pure []

/-- The format of the output. -/
def resolveFormat (o : Options) : Job Format :=
  match Format.resolve? o.format o.output with
  | some f => pure f
  | none => Job.fail (.rule Format.unresolvedMessage)

/-! ### Output -/

/-- Adds views to a sink, one after the other.  If one is refused, what the sink holds is written
before it is given up, if it can be. -/
def addAll (s : Sink) : List View → Job Sink
  | [] => pure s
  | v :: rest => do
    match ← ExceptT.lift (s.add v).run with
    | .ok s => addAll s rest
    | .error f =>
      let _ ← ExceptT.lift s.finish.run
      Job.fail f

/-- Exports views to a directory, one after the other. -/
def exportAll (directory : Text) (date : Date) : List View → Job Unit
  | [] => pure ()
  | v :: rest => do
    let _ ← Export.write directory date v
    exportAll directory date rest

/-- Writes views to the output and exports them. -/
def write (o : Options) (date : Date) (format : Format) (views : List View) : Job Unit := do
  let sink ← addAll (← Sink.create format o.output) views
  let _ ← Job.within "Sink: Failed to finalize output" sink.finish
  if let some directory := o.exportDirectory then
    Export.createDirectory directory
    exportAll directory date views

/-- Filters the selected datasets and writes what is left of them; the number of rows that are
shown is the result. -/
def showRows (o : Options) (date : Date) (datasets : List Dataset) (current : Dataset) :
    Job Nat := do
  let format ← o.resolveFormat
  let clause ← o.resolveClause current.headers
  let selected := if o.all then datasets else [current]
  if format = .csv && 1 < selected.length then
    Job.fail (.rule "CLI: CSV output holds a single dataset; use jsonl or --export-dir")
  let views ← Job.ofExcept
    ((Dataset.views clause o.search selected).mapError fun e => .of (.filter e))
  o.write date format views
  return views.foldl (fun n v => n + v.shown) 0

/-- Does what the options ask for. -/
def run (o : Options) (date : Date) : Job Nat := do
  let datasets ← o.loadDatasets
  let current ← o.selectDataset datasets
  if o.describe then
    match ← Job.request (.print current.reference) with
    | .ok _ => return 0
    | .error e => Job.fail (.printing e)
  o.showRows date datasets current

end Options

end Tabular
