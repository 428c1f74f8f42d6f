import Tabular.Settings.Toml.Scalar
import Tabular.Settings.Toml.Table

/-! # Settings in TOML

A text is a sequence of lines: headers of tables and of lists of tables, and entries of the table
whose header came last.  Lists and tables in one line are values; there, ends of lines and comments
count as blanks, and a comma may stand behind the last item. -/

namespace Tabular.Settings.Toml

/-! ### Names -/

/-- A letter of a name without quotation marks. -/
def isNameLetter (c : Char) : Bool :=
  c.isAlphanum || c == '_' || c == '-'

/-- A name at the front of a text, and what follows. -/
def name? (t : Text) : Option (Text × Text) :=
  match t with
  | '"' :: _ | '\'' :: _ => line? t
  | _ =>
    let name := t.takeWhile isNameLetter
    if name.isEmpty then none else some (name, t.drop name.length)

/-- The names of a path, with points between them, and what follows the blanks after it.  There
are at most `steps` names. -/
def pathFrom? : (steps : Nat) → Text → Option (List Text × Text)
  | 0, _ => none
  | steps + 1, t => do
    let (name, rest) ← name? (skipBlanks t)
    match skipBlanks rest with
    | '.' :: rest =>
      let (names, rest) ← pathFrom? steps rest
      return (name :: names, rest)
    | rest => return ([name], rest)

/-- A path at the front of a text, and what follows. -/
def path? (t : Text) : Option (List Text × Text) :=
  pathFrom? (t.length + 1) t

/-! ### Values -/

mutual

/-- A value at the front of a text, and what follows. -/
def value? : (steps : Nat) → Text → Option (Setting × Text)
  | 0, _ => none
  | steps + 1, t =>
    match t with
    | '[' :: t => (items? steps (skipGap t)).map fun (vs, rest) => (.list vs, rest)
    | '\x7b' :: t =>
      (members? steps [] (skipGap t)).map fun (es, rest) => (.table (settings es), rest)
    | t => scalar? t

/-- The items of a list up to its closing bracket. -/
def items? : (steps : Nat) → Text → Option (List Setting × Text)
  | 0, _ => none
  | steps + 1, t =>
    match t with
    | ']' :: rest => some ([], rest)
    | t => do
      let (v, rest) ← value? steps t
      match skipGap rest with
      | ',' :: rest =>
        let (vs, rest) ← items? steps (skipGap rest)
        return (v :: vs, rest)
      | ']' :: rest => return ([v], rest)
      | _ => none

/-- The entries of a table up to its closing brace, after the entries `es`. -/
def members? : (steps : Nat) → Entries → Text → Option (Entries × Text)
  | 0, _, _ => none
  | steps + 1, es, t =>
    match t with
    | '\x7d' :: rest => some (es, rest)
    | t => do
      let (path, rest) ← path? t
      let (v, rest) ← value? steps (skipBlanks (← Text.after? ['='] rest))
      let es ← es.add? path v
      match skipGap rest with
      | ',' :: rest => members? steps es (skipGap rest)
      | '\x7d' :: rest => return (es, rest)
      | _ => none

end

/-! ### Lines -/

/-- The last header and the entries of the whole text so far. -/
structure State where
  header : List Text
  entries : Entries

/-- The state after the header or the entry at the front of a text, and what follows. -/
def statement? (s : State) : Text → Option (State × Text)
  | '[' :: '[' :: t => do
    let (path, rest) ← path? t
    let rest ← Text.after? [']', ']'] rest
    return (⟨path, ← s.entries.openNext? path⟩, rest)
  | '[' :: t => do
    let (path, rest) ← path? t
    let rest ← Text.after? [']'] rest
    return (⟨path, ← s.entries.openTable? path⟩, rest)
  | t => do
    let (path, rest) ← path? t
    let rest ← Text.after? ['='] rest
    let (v, rest) ← value? (rest.length + 1) (skipBlanks rest)
    return (⟨s.header, ← s.entries.addUnder? s.header path v⟩, rest)

/-- The entries of a text, of which there are at most `steps`, each on lines of its own. -/
def linesFrom : (steps : Nat) → State → Text → Option Entries
  | 0, _, _ => none
  | steps + 1, s, t =>
    match skipGap t with
    | [] => some s.entries
    | t => do
      let (s, rest) ← statement? s t
      match skipComment rest with
      | [] => some s.entries
      | rest => linesFrom steps s (← afterLine? rest)

/-- Reads settings in TOML. -/
def read : SettingsReader := fun t =>
  match linesFrom (t.length + 1) ⟨[], []⟩ t with
  | some entries => .ok (.table (settings entries))
  | none => .error "invalid settings"

end Tabular.Settings.Toml
