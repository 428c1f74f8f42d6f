import Tabular.Boxes
import Tabular.Csv.Records
import Tabular.Dataset
import Tabular.Number.Binary64
import Tabular.Path

/-! # Output formats

A view is written as a table for people, as comma-separated records, or as lines of JSON.  In the
last format every row is an object on a line of its own: the key of the dataset, and the cells under
the names of their columns in the order of the names. -/

namespace Tabular

/-! ### Names and extensions -/

/-- The forms in which views are written. -/
inductive Format where
  /-- Tables for people. -/
  | table
  /-- Comma-separated records. -/
  | csv
  /-- A JSON object a line. -/
  | jsonl
  deriving DecidableEq, Repr

namespace Format

/-- The formats in the order in which they are offered. -/
def all : List Format :=
  [table, csv, jsonl]

/-- The name of a format. -/
def label : Format → Text
  | table => "table".toList
  | csv => "csv".toList
  | jsonl => "jsonl".toList

/-- The format that a name stands for. -/
def ofLabel? (t : Text) : Option Format :=
  all.find? fun f => f.label = t

/-- The format that an extension stands for, in any letter case. -/
def ofExtension? (extension : Text) : Option Format :=
  let e := Unicode.lowerCase extension
  if e = "csv".toList then some csv
  else if e = "jsonl".toList || e = "json".toList then some jsonl
  else if e = "txt".toList then some table
  else none

/-- The format for an output for which none is chosen: a table on the standard output, and for a
file what its extension says. -/
def ofOutput? (output : Text) : Option Format :=
  if Path.isDash output then some table
  else (Path.extension? output).bind ofExtension?

/-- What is said if there is no format for an output. -/
def unresolvedMessage : String :=
  "CLI: Could not detect output format from extension; use --format"

/-- The format of an output: the chosen one if there is one. -/
def resolve? (chosen : Option Format) (output : Text) : Option Format :=
  chosen.or (ofOutput? output)

end Format

/-! ### Texts in JSON -/

namespace Text

/-- A digit of a number to the base 16. -/
def hexDigit (n : Nat) : Char :=
  Nat.digitChar n

/-- A character as it stands in a JSON string: a quotation mark, a backslash and the controls are
written after a backslash. -/
def jsonChar (c : Char) : Text :=
  if c = '"' || c = '\\' then ['\\', c]
  else if c = '\x08' then ['\\', 'b']
  else if c = '\t' then ['\\', 't']
  else if c = '\n' then ['\\', 'n']
  else if c = '\x0C' then ['\\', 'f']
  else if c = '\r' then ['\\', 'r']
  else if c.toNat < 0x20 then
    ['\\', 'u', '0', '0', hexDigit (c.toNat / 16), hexDigit (c.toNat % 16)]
  else [c]

/-- A text as a JSON string. -/
def jsonString (t : Text) : Text :=
  '"' :: t.flatMap jsonChar ++ ['"']

/-- Puts a text in its place in an ordered list, unless it is there. -/
def insertOrdered (t : Text) : List Text → List Text
  | [] => [t]
  | other :: rest =>
    if t = other then other :: rest
    else if before t other then t :: other :: rest
    else other :: insertOrdered t rest

/-- The texts of a list in their order, each once. -/
def ordered (ts : List Text) : List Text :=
  ts.foldr insertOrdered []

end Text

namespace View

/-! ### Comma-separated records -/

/-- The columns and the rows of a view, one record each. -/
def csvText (v : View) : Text :=
  Csv.recordText v.dataset.headers ++ v.rows.flatMap fun row => Csv.recordText (v.cells row)

/-! ### Lines of JSON -/

/-- A name and a value of an object. -/
def jsonMember (name value : Text) : Text :=
  Text.jsonString name ++ ':' :: value

/-- An object with these members. -/
def jsonObject (members : List Text) : Text :=
  '\x7b' :: Text.joinWith [','] members ++ ['\x7d']

/-- The cells of a row as an object. -/
def jsonRow (v : View) (row : Row) : Text :=
  jsonObject ((Text.ordered v.dataset.headers).map fun header =>
    jsonMember header (Text.jsonString ((row.get? header).getD [])))

/-- A row as a line of JSON. -/
def jsonLine (v : View) (row : Row) : Text :=
  jsonObject [jsonMember "dataset".toList (Text.jsonString v.dataset.key),
    jsonMember "row".toList (v.jsonRow row)] ++ ['\n']

/-- The rows of a view as lines of JSON. -/
def jsonLines (v : View) : Text :=
  v.rows.flatMap v.jsonLine

/-! ### Tables -/

/-- The lines over a table: the title, the numbers of rows and columns, and the description. -/
def heading (v : View) : Text :=
  v.dataset.title ++ " Dataset\nTotal: ".toList ++ Number.natText v.total ++
    " | Shown: ".toList ++ Number.natText v.shown ++
    " | Columns: ".toList ++ Number.natText v.dataset.headers.length ++ ['\n'] ++
    v.dataset.info.description.elim [] (· ++ ['\n'])

/-- What is shown in place of a table without rows. -/
def emptyNotice (v : View) : Text :=
  "No results found in ".toList ++ v.dataset.displayName ++
    ". Try adjusting the search or the filter.".toList

/-- A view with its heading, and a blank line below it. -/
def tableText (v : View) : Text :=
  v.heading ++
    (if v.rows.isEmpty then v.emptyNotice
      else Boxes.table v.dataset.headers (v.rows.map v.cells)) ++
    ['\n', '\n']

/-- A view in a format. -/
def textIn (v : View) : Format → Text
  | .table => v.tableText
  | .csv => v.csvText
  | .jsonl => v.jsonLines

end View

end Tabular
