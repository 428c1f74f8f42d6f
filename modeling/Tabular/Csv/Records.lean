import Tabular.Text.Utf8

/-! # Records of comma-separated bytes

The bytes of a file are read one by one.  A record ends at a carriage return or a line feed, so
line ends of two bytes leave an empty line behind, and empty lines are passed over.  A field that
begins with a quotation mark goes up to the next one, and commas and line ends in it are part of
the field; two quotation marks in it stand for one.  Nothing is refused: what follows the closing
mark is added to the field, and a mark inside a plain field is a byte like any other.

A field is written between quotation marks if it has a comma, a quotation mark or the end of a line
in it, and quotation marks in it are written twice.  A record that would come out empty is written
as an empty quoted field, so that no record is taken for an empty line. -/

namespace Tabular.Csv

/-- The byte between two fields. -/
def comma : UInt8 := 0x2C

/-- The byte around a quoted field. -/
def quote : UInt8 := 0x22

/-- The byte at the end of a line. -/
def lineFeed : UInt8 := 0x0A

/-- A byte that ends a record. -/
def isRecordEnd (b : UInt8) : Bool :=
  b == lineFeed || b == 0x0D

/-! ### Positions -/

/-- A place in a file: the line, counted from one, and the bytes in front of it. -/
structure Position where
  line : Nat
  byte : Nat
  deriving DecidableEq, Repr

/-- The place after one more byte. -/
def Position.after (p : Position) (b : UInt8) : Position where
  line := if b = lineFeed then p.line + 1 else p.line
  byte := p.byte + 1

/-! ### The automaton -/

/-- Where in a record a byte stands. -/
inductive Place where
  /-- In front of a record. -/
  | recordStart
  /-- In front of a field. -/
  | fieldStart
  /-- In a field without quotation marks. -/
  | plain
  /-- Between quotation marks. -/
  | quoted
  /-- After a quotation mark that may be the closing one. -/
  | quoteSeen
  deriving DecidableEq, Repr

/-- What a byte does. -/
inductive Move where
  /-- It only leads to another place. -/
  | drop (next : Place)
  /-- It belongs to the field. -/
  | keep (next : Place)
  /-- It ends the field. -/
  | endField
  /-- It ends the field and the record. -/
  | endRecord
  deriving DecidableEq, Repr

/-- What a byte outside of quotation marks does. -/
def moveUnquoted (b : UInt8) : Move :=
  if b = comma then .endField
  else if isRecordEnd b then .endRecord
  else .keep .plain

/-- What a byte in front of a field does. -/
def moveFieldStart (b : UInt8) : Move :=
  if b = quote then .drop .quoted else moveUnquoted b

/-- What a byte does at a place. -/
def Place.move : Place → UInt8 → Move
  | recordStart, b => if isRecordEnd b then .drop .recordStart else moveFieldStart b
  | fieldStart, b => moveFieldStart b
  | plain, b => moveUnquoted b
  | quoted, b => if b = quote then .drop .quoteSeen else .keep .quoted
  | quoteSeen, b => if b = quote then .keep .quoted else moveUnquoted b

/-! ### Records -/

/-- The fields of a record, and the place where the record before it ended. -/
structure Record where
  start : Position
  fields : List Bytes
  deriving DecidableEq, Repr

/-- A record of which some bytes have been read. -/
structure Unfinished where
  /-- Where the record before it ended. -/
  start : Position
  /-- The place of the next byte. -/
  here : Position
  /-- The fields that have ended, the last one first. -/
  fields : List Bytes
  /-- The bytes of the field that has not, the last one first. -/
  field : Bytes

namespace Unfinished

/-- A record of which nothing has been read. -/
def startingAt (p : Position) : Unfinished :=
  ⟨p, p, [], []⟩

/-- After a byte that belongs to no field. -/
def pass (u : Unfinished) (b : UInt8) : Unfinished :=
  { u with here := u.here.after b }

/-- After a byte of the field. -/
def take (u : Unfinished) (b : UInt8) : Unfinished :=
  { u with here := u.here.after b, field := b :: u.field }

/-- After a byte that ends the field. -/
def cut (u : Unfinished) (b : UInt8) : Unfinished :=
  { u with here := u.here.after b, fields := u.field.reverse :: u.fields, field := [] }

/-- The record with the field that has not ended as its last one. -/
def record (u : Unfinished) : Record :=
  ⟨u.start, (u.field.reverse :: u.fields).reverse⟩

end Unfinished

/-- The records of the bytes from some place on. -/
def recordsFrom (u : Unfinished) (place : Place) : Bytes → List Record
  | [] => if place = .recordStart then [] else [u.record]
  | b :: rest =>
    match place.move b with
    | .drop next => recordsFrom (u.pass b) next rest
    | .keep next => recordsFrom (u.take b) next rest
    | .endField => recordsFrom (u.cut b) .fieldStart rest
    | .endRecord =>
      u.record :: recordsFrom (.startingAt (u.here.after b)) .recordStart rest

/-- The records of a file.  A mark in front of it is passed over, but counts as bytes. -/
def records (bytes : Bytes) : List Record :=
  if Utf8.byteOrderMark.isPrefixOf bytes then
    recordsFrom { Unfinished.startingAt ⟨1, 0⟩ with here := ⟨1, 3⟩ } .recordStart (bytes.drop 3)
  else recordsFrom (.startingAt ⟨1, 0⟩) .recordStart bytes

/-! ### Writing -/

/-- A character that a field without quotation marks cannot have. -/
def needsQuotes (c : Char) : Bool :=
  c == ',' || c == '"' || c == '\n' || c == '\r'

/-- The quotation marks of a field written twice. -/
def doubleQuotes : Text → Text
  | [] => []
  | c :: t => if c = '"' then '"' :: '"' :: doubleQuotes t else c :: doubleQuotes t

/-- A field as it is written. -/
def fieldText (field : Text) : Text :=
  if field.any needsQuotes then '"' :: doubleQuotes field ++ ['"'] else field

/-- The fields of a record as they are written, without the end of the line. -/
def fieldsText (fields : List Text) : Text :=
  match Text.joinWith [','] (fields.map fieldText) with
  | [] => ['"', '"']
  | t => t

/-- A record as it is written. -/
def recordText (fields : List Text) : Text :=
  fieldsText fields ++ ['\n']

end Tabular.Csv
