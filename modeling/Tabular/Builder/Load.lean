import Tabular.Builder
import Tabular.Failure
import Tabular.Yaml.Value

/-! # Building from a list of conditions

Every entry of the list becomes a draft: it is added with its defaults and then edited field by
field, so every step on the way has to be accepted.  The first entry that is refused is named.

A list of conditions in YAML has a mapping for every condition.  All of its fields may be left out,
and fields that are not known are passed over.  Nothing stands for an empty list or for a mapping
without fields.  Column, operator and join are texts however they are written; the value is a
scalar. -/

namespace Tabular.Builder

/-! ### Lists of conditions -/

section entries

open Yaml (Node Value Error)

/-- A condition as it stands in a list; fields that are left out have their defaults. -/
structure Entry where
  column : Option Text
  operator : Option Text
  value : Option Value
  logic : Option Text

namespace Entry

/-- An entry without fields. -/
def empty : Entry :=
  ⟨none, none, none, none⟩

/-- The depth of the deepest list of conditions. -/
def depthLimit : Nat := 128

/-! ### Fields -/

/-- Whether a scalar says that there is nothing. -/
def isAbsent (tag : Option Text) (plain : Bool) (t : Text) : Except Error Bool :=
  if !plain then .ok false
  else
    match tag with
    | none => .ok (t.isEmpty || Yaml.isNull t)
    | some tag =>
      if tag ≠ Yaml.commonTag "null".toList then .ok false
      else if Yaml.isNull t then .ok true
      else .error (.invalid "null")

/-- A field that is a text. -/
def textOf? : Node → Except Error (Option Text)
  | .scalar tag plain t => do return if ← isAbsent tag plain t then none else some t
  | .list .. | .map .. => .error (.type "a string")
  | .cycle => .error .depth

/-- A field that is a value. -/
def valueOf? : Node → Except Error (Option Value)
  | .scalar tag plain t => do
    if ← isAbsent tag plain t then return none
    return some (← Value.ofNode (depthLimit - 2) (.scalar tag plain t))
  | n => return some (← Value.ofNode (depthLimit - 2) n)

/-- The name of a field. -/
def fieldName : Node → Except Error Text
  | .scalar _ _ t => .ok t
  | .list .. | .map .. => .error (.type "field identifier")
  | .cycle => .error .depth

/-! ### Entries -/

/-- An entry with the fields of a mapping; `seen` are the known fields that it has already. -/
def withFields (seen : List Text) (e : Entry) : List (Node × Node) → Except Error Entry
  | [] => .ok e
  | (k, v) :: rest => do
    let name ← fieldName k
    if seen.contains name then throw (.duplicate (String.ofList name))
    if name = "column".toList then
      withFields (name :: seen) { e with column := ← textOf? v } rest
    else if name = "operator".toList then
      withFields (name :: seen) { e with operator := ← textOf? v } rest
    else if name = "value".toList then
      withFields (name :: seen) { e with value := ← valueOf? v } rest
    else if name = "logic".toList then
      withFields (name :: seen) { e with logic := ← textOf? v } rest
    else withFields seen e rest

/-- The entry that a node is. -/
def ofNode : Node → Except Error Entry
  | .map _ entries => withFields [] empty entries
  | .scalar _ plain t => if plain && t.isEmpty then .ok empty else .error (.type "a mapping")
  | .list .. => .error (.type "a mapping")
  | .cycle => .error .depth

/-- The entries that a document is. -/
def listOfNode : Node → Except Error (List Entry)
  | .list _ items => items.mapM ofNode
  | .scalar _ plain t => if plain && t.isEmpty then .ok [] else .error (.type "a sequence")
  | .map .. => .error (.type "a sequence")
  | .cycle => .error .depth

/-- The entries that a text lists. -/
def listOfText (t : Text) : Except Error (List Entry) := do
  match ← Node.ofTokens (← Yaml.tokens t) with
  | [] => return []
  | [n] => listOfNode n
  | _ => throw .documents

end Entry

end entries

/-! ### Drafts of entries -/

/-- Why an entry of a list is refused. -/
inductive EntryError where
  /-- The builder refuses a step. -/
  | builder (e : BuilderError)
  /-- No operator has this name. -/
  | operator (t : Text)
  /-- No join has this name. -/
  | logic (t : Text)
  /-- The value is not a scalar. -/
  | value (v : Yaml.Value)

/-- What is said about an entry that is refused. -/
def EntryError.message : EntryError → String
  | builder e => e.message
  | operator t => Operator.unknownMessage t
  | logic t => Logic.unknownMessage t
  | value v => s!"value must be a scalar, got {String.ofList v.display}"

/-- A scalar as the operand of a condition. -/
def scalarText : Yaml.Value → Except EntryError Text
  | .null => .ok []
  | .bool b => .ok (if b then "true".toList else "false".toList)
  | .number t => .ok t
  | .string t => .ok t
  | v => .error (.value v)

/-- Changes a draft unless there is no change. -/
def updateIf (b : Builder) (id : Nat) (edit : Option Edit) : Except EntryError Builder :=
  match edit with
  | none => .ok b
  | some edit => (b.update id edit).mapError .builder

/-- Adds the draft of an entry. -/
def addEntry (b : Builder) (e : Entry) : Except EntryError Builder := do
  let (id, b) ← b.add.mapError .builder
  let b ← b.updateIf id (e.column.map .column)
  let op ← e.operator.mapM fun t => (Operator.ofText? t).elim (.error (.operator t)) Except.ok
  let b ← b.updateIf id (op.map .operator)
  let value ← e.value.mapM scalarText
  let b ← b.updateIf id (value.map .value)
  let logic ← e.logic.mapM fun t => (Logic.ofText? t).elim (.error (.logic t)) Except.ok
  b.updateIf id (logic.map .logic)

/-- Adds the drafts of entries, which are counted from `place` on; the error has the place of the
entry that is refused. -/
def addEntries (b : Builder) : (place : Nat) → List Entry → Except (Nat × EntryError) Builder
  | _, [] => .ok b
  | place, e :: rest => do
    let b ← (b.addEntry e).mapError (place, ·)
    addEntries b (place + 1) rest

/-- A builder with the drafts of a list. -/
def ofEntries (headers : List Text) (entries : List Entry) : Except (Nat × EntryError) Builder :=
  (new headers).addEntries 1 entries

/-- Reads a file as text. -/
def readText (path : Text) : Job Text := do
  let bytes ← Job.ofIo (← Job.ofIo (← Job.request (.read path)))
  match Utf8.decode bytes with
  | .ok t => return t
  | .error _ => Job.fail (.of (.io .notText))

/-- Builds from the list of conditions in a file. -/
def load (headers : List Text) (path : Text) : Job Builder := do
  let t ← Job.within s!"Conditions: Failed to read {Path.quoted path}" (readText path)
  let entries ← Job.within s!"Conditions: Failed to parse {Path.quoted path}"
    (Job.ofExcept ((Entry.listOfText t).mapError fun e => .of (.conditions e.message)))
  match ofEntries headers entries with
  | .ok b => return b
  | .error (place, e) =>
    Job.fail (.rule s!"Error in condition {place} of {Path.quoted path}: {e.message}")

end Tabular.Builder
