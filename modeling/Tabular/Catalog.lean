import Tabular.Dataset
import Tabular.Failure
import Tabular.Settings.Ini
import Tabular.Settings.Json
import Tabular.Settings.Json5
import Tabular.Settings.Ron
import Tabular.Settings.Toml
import Tabular.Settings.Yaml

/-! # Catalogs

A catalog lists datasets with the paths of their files.  The table of settings has the list under one
name.  A dataset is a table of its fields, or a list of them in their order; key and path have to be
there.

The extension of a catalog says in which format it is written.  If there is no file at a path, the
extensions are tried behind it. -/

namespace Tabular

/-! ### Entries and datasets -/

/-- A line of a catalog. -/
structure Entry where
  key : Text
  path : Text
  name : Option Text
  description : Option Text
  emoji : Option Text
  primaryKey : Option Text
  deriving DecidableEq, Repr

namespace Entry

/-- The path of the file, seen from the directory of the catalog. -/
def resolvedPath (e : Entry) (directory : Text) : Text :=
  Path.join directory e.path

/-- What is told about the dataset; its name is the key if none is given. -/
def info (e : Entry) : Info where
  name := e.name.getD e.key
  description := e.description
  emoji := e.emoji
  primaryKey := e.primaryKey

end Entry

/-- Loads a dataset from a file of comma-separated records. -/
def Dataset.load (key path : Text) (info : Info) : Job Dataset := do
  let opened ← Job.within s!"Dataset: Failed to open {Path.quoted path}" do
    Job.ofIo (← Job.request (.read path))
  Job.within s!"Dataset: Failed to parse {Path.quoted path}" do
    let bytes ← Job.ofIo opened
    match Csv.readSheet bytes with
    | .ok sheet => return Dataset.ofSheet key info sheet
    | .error e => Job.fail (.ofRecords e)

/-- Loads the datasets of a catalog. -/
def Entry.loadAll (directory : Text) : List Entry → Job (List Dataset)
  | [] => pure []
  | e :: rest => do
    let d ← Job.within s!"Config: Failed to load dataset '{String.ofList e.key}'"
      (Dataset.load e.key (e.resolvedPath directory) e.info)
    return d :: (← loadAll directory rest)

namespace Catalog

/-! ### Settings -/

/-- What is said about a field that is missing. -/
def missing (name : String) : String :=
  "missing field `" ++ name ++ "`"

/-- A text that has to be there. -/
def requiredText (name : String) : Option Setting → Except String Text
  | none => .error (missing name)
  | some s => (s.toText?).elim (.error ("invalid type: expected a string for " ++ name)) .ok

/-- A text that may be left out. -/
def optionalText (name : String) : Option Setting → Except String (Option Text)
  | none | some .nothing => .ok none
  | some s => some <$> requiredText name (some s)

/-- The entry with these fields. -/
def entryOf (field : (place : Nat) → (name : String) → Option Setting) : Except String Entry := do
  return {
    key := ← requiredText "key" (field 0 "key")
    path := ← requiredText "path" (field 1 "path")
    name := ← optionalText "name" (field 2 "name")
    description := ← optionalText "description" (field 3 "description")
    emoji := ← optionalText "emoji" (field 4 "emoji")
    primaryKey := ← optionalText "primary_key" (field 5 "primary_key") }

/-- The entry that a setting is. -/
def entryOfSetting : Setting → Except String Entry
  | .table entries => entryOf fun _ name => Setting.get? name.toList entries
  | .list items => entryOf fun place _ => items[place]?
  | _ => .error "invalid type: expected a dataset"

/-- The entries of a catalog. -/
def entriesOfSetting : Setting → Except String (List Entry)
  | .table entries =>
    match Setting.get? "datasets".toList (Setting.placed entries) with
    | none => .error (missing "datasets")
    | some (.list items) => items.mapM entryOfSetting
    | some _ => .error "invalid type: expected a sequence"
  | _ => .error "configuration file must be a table"

/-! ### Files -/

/-- The formats of catalogs: their extensions with their readers. -/
def readers : List (Text × SettingsReader) :=
  [("toml".toList, Settings.Toml.read), ("json".toList, Settings.Json.read),
    ("yaml".toList, Settings.Yaml.read), ("yml".toList, Settings.Yaml.read),
    ("ini".toList, Settings.Ini.read), ("ron".toList, Settings.Ron.read),
    ("json5".toList, Settings.Json5.read)]

/-- A path up to its last name. -/
def uptoName (path : Text) : Text :=
  Text.joinWith ['/'] (Path.dropIdle (Path.pieces path))

/-- The first of some extensions behind which there is a file. -/
def findExtended (path : Text) : List (Text × SettingsReader) → Job (Option (Text × SettingsReader))
  | [] => return none
  | (extension, reader) :: rest => do
    let extended := uptoName path ++ '.' :: extension
    if ← Job.request (.isFile extended) then return some (extended, reader)
    findExtended path rest

/-- The file of a catalog and the reader for it. -/
def find (path : Text) : Job (Text × SettingsReader) := do
  let name := String.ofList path
  if ← Job.request (.isFile path) then
    match readers.lookup ((Path.extension? path).getD []) with
    | some reader => return (path, reader)
    | none =>
      Job.fail (.of (.catalog
        s!"configuration file \"{name}\" is not of a registered file format"))
  else
    let found ← if (Path.name? path).isSome then findExtended path readers else pure none
    match found with
    | some found => return found
    | none => Job.fail (.of (.catalog s!"configuration file \"{name}\" not found"))

/-- The content of a file as text; bytes that are no text are replaced. -/
def readText (path : Text) : Job Text := do
  match ← Job.request (.read path) with
  | .ok (.ok bytes) => return Utf8.decodeLossy (Utf8.withoutMark bytes)
  | .ok (.error e) | .error e => Job.fail (.of (.catalog e.message))

/-- Loads the entries of a catalog, of which there has to be one. -/
def load (path : Text) : Job (List Entry) := do
  let (file, reader) ← find path
  let t ← readText file
  let entries ← Job.ofExcept ((reader t >>= entriesOfSetting).mapError fun m => .of (.catalog m))
  if entries.isEmpty then
    Job.fail (.rule s!"Config: {Path.quoted path} lists no datasets")
  return entries

/-- The directory from which the paths in a catalog are seen. -/
def directory (path : Text) : Text :=
  (Path.parent? path).getD ['.']

end Catalog

end Tabular
