import Tabular.Settings

/-! # Tables in TOML

The tables of a text are filled statement by statement.  A header opens the table at a path, or one
more table in the list of tables at a path, and the names on the way are tables as well.  An entry
of a table may itself have a path.  How a table came to be decides what may still be added to it:
no table has two headers, a path of an entry goes only through tables that have none, and the
tables and lists that are values are complete. -/

namespace Tabular.Settings.Toml

/-- How a table came to be. -/
inductive Origin where
  /-- It has a header, or it is the whole text. -/
  | header
  /-- It stands on the way to a header. -/
  | onTheWay
  /-- It stands on the way to an entry. -/
  | dotted
  deriving DecidableEq, Repr

/-- What stands under a name: a complete value, a table, or a list of tables of which the last one
is open. -/
inductive Item where
  | value (s : Setting)
  | table (origin : Origin) (entries : List (Text × Item))
  | tables (front : List (List (Text × Item))) (last : List (Text × Item))

/-- The entries of a table, in order. -/
abbrev Entries :=
  List (Text × Item)

namespace Entries

/-- Entries with the item under a name made from the one that was there. -/
def alter? (name : Text) (f : Option Item → Option Item) : Entries → Option Entries
  | [] => (f none).map fun item => [(name, item)]
  | (n, item) :: rest =>
    if n = name then (f (some item)).map fun item => (n, item) :: rest
    else (alter? name f rest).map ((n, item) :: ·)

/-- Entries with a value under a new name. -/
def addNew? (name : Text) (s : Setting) : Entries → Option Entries :=
  alter? name fun
    | none => some (.value s)
    | some _ => none

/-- Entries in which the table at a path has been changed; `way` is the origin of the tables that
are not there yet, and tells whether the path is that of an entry. -/
def changeAt? (way : Origin) (f : Origin → Entries → Option Entries) :
    (path : List Text) → Origin → Entries → Option Entries
  | [], origin, es => f origin es
  | name :: path, _, es => alter? name (fun
    | none => (changeAt? way f path way []).map (.table way)
    | some (.table origin inner) =>
      if way = .dotted && origin = .header then none
      else (changeAt? way f path origin inner).map (.table origin)
    | some (.tables front last) => (changeAt? way f path .header last).map (.tables front)
    | some (.value _) => none) es

/-- Entries with an entry under a path. -/
def add? (path : List Text) (s : Setting) (es : Entries) : Option Entries := do
  let name ← path.getLast?
  changeAt? .dotted (fun origin es =>
    if path.length ≠ 1 && origin ≠ .dotted then none else addNew? name s es)
    path.dropLast .header es

/-- Entries with an entry added to the table of the last header. -/
def addUnder? (header path : List Text) (s : Setting) (es : Entries) : Option Entries :=
  changeAt? .onTheWay (fun _ es => add? path s es) header .header es

/-- Entries with the table of a header opened. -/
def openTable? (path : List Text) (es : Entries) : Option Entries := do
  let name ← path.getLast?
  changeAt? .onTheWay (fun _ es => alter? name (fun
    | none => some (.table .header [])
    | some (.table .onTheWay inner) => some (.table .header inner)
    | some _ => none) es) path.dropLast .header es

/-- Entries with one more table in the list of tables of a header. -/
def openNext? (path : List Text) (es : Entries) : Option Entries := do
  let name ← path.getLast?
  changeAt? .onTheWay (fun _ es => alter? name (fun
    | none => some (.tables [] [])
    | some (.tables front last) => some (.tables (front ++ [last]) [])
    | some _ => none) es) path.dropLast .header es

end Entries

mutual

/-- The setting that an item is. -/
def Item.setting : Item → Setting
  | .value s => s
  | .table _ es => .table (settings es)
  | .tables front last => .list (settingsEach front ++ [.table (settings last)])

/-- The settings that entries are. -/
def settings : List (Text × Item) → List (Text × Setting)
  | [] => []
  | e :: rest => entrySetting e :: settings rest

/-- The setting that an entry is. -/
def entrySetting : Text × Item → Text × Setting
  | (name, item) => (name, item.setting)

/-- The settings that tables are. -/
def settingsEach : List (List (Text × Item)) → List Setting
  | [] => []
  | es :: rest => .table (settings es) :: settingsEach rest

end

end Tabular.Settings.Toml
