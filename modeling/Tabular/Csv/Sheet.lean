import Tabular.Csv.Records
import Tabular.Row
import Tabular.Text.Utf8

/-! # Sheets

The first record of a file names the columns and every further record is a row.  Names and cells
lose the white space around them.  A record that is too short is filled up with empty cells, and
what goes beyond the named columns is dropped.  Where two columns have one name, the cell of the
last one counts. -/

namespace Tabular.Csv

/-- The columns of a file in their order, and its rows. -/
structure Sheet where
  headers : List Text
  rows : List Row

/-- A field that is not text: its record, counted from zero, its place in it, and the bytes in
front of the first one that is part of no character. -/
structure NotText where
  record : Nat
  start : Position
  field : Nat
  index : Nat
  deriving DecidableEq, Repr

namespace NotText

/-- What is said about the field. -/
def cause (e : NotText) : String :=
  s!"invalid utf-8: invalid UTF-8 in field {e.field} near byte index {e.index}"

/-- What is said about the field and its place in the file. -/
def message (e : NotText) : String :=
  s!"CSV parse error: record {e.record} (line {e.start.line}, field: {e.field}, " ++
    s!"byte: {e.start.byte}): " ++ e.cause

end NotText

/-- White space among bytes. -/
def isSpace (b : UInt8) : Bool :=
  b == 0x20 || b == 0x09 || b == 0x0A || b == 0x0C || b == 0x0D

/-- Bytes without the white space around them. -/
def trimBytes (bytes : Bytes) : Bytes :=
  ((bytes.dropWhile isSpace).reverse.dropWhile isSpace).reverse

/-- The fields of a record as texts; the fields are counted from `index` on. -/
def fieldTexts (record : Nat) (start : Position) : (index : Nat) → List Bytes →
    Except NotText (List Text)
  | _, [] => .ok []
  | index, field :: fields =>
    match Utf8.decode field with
    | .error n => .error ⟨record, start, index, n⟩
    | .ok t => (Text.trim t :: ·) <$> fieldTexts record start (index + 1) fields

/-- The names in the first record. -/
def headerTexts : Option Record → Except NotText (List Text)
  | none => .ok []
  | some r => fieldTexts 0 r.start 0 r.fields

/-- The cells of a record that is not the first one.  Here the white space goes first, so that the
bytes of a field that is no text are counted without it. -/
def cellTexts (index : Nat) (r : Record) : Except NotText (List Text) :=
  fieldTexts index r.start 0 (r.fields.map trimBytes)

/-- Pairs the columns with the cells of a record; a column without a cell has an empty one. -/
def pairCells : (headers cells : List Text) → List (Text × Text)
  | [], _ => []
  | header :: headers, [] => (header, []) :: pairCells headers []
  | header :: headers, cell :: cells => (header, cell) :: pairCells headers cells

/-- The rows of records, which are counted from `index` on. -/
def rowsFrom (headers : List Text) : (index : Nat) → List Record → Except NotText (List Row)
  | _, [] => .ok []
  | index, r :: rest => do
    let cells ← cellTexts index r
    let rows ← rowsFrom headers (index + 1) rest
    return Row.ofCells (pairCells headers cells) :: rows

/-- Reads the bytes of a file. -/
def readSheet (bytes : Bytes) : Except NotText Sheet := do
  let all := records bytes
  let headers ← headerTexts all.head?
  let rows ← rowsFrom headers 1 all.tail
  return ⟨headers, rows⟩

end Tabular.Csv
