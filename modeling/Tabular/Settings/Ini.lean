import Tabular.Number.Literal
import Tabular.Settings

/-! # Settings in INI

A text is a sequence of entries, each a name and a value with an equals sign or a colon between
them; a name in brackets puts the entries behind it into a table.  Every value is a text.
Backslashes have a meaning in names and values, quotation marks at the front of values. -/

namespace Tabular.Settings.Ini

/-! ### Names and values -/

/-- The character that a letter after a backslash stands for. -/
def escaped : Char → Text
  | '0' => ['\x00']
  | 'a' => ['\x07']
  | 'b' => ['\x08']
  | 't' => ['\t']
  | 'r' => ['\r']
  | 'n' => ['\n']
  | '\n' => []
  | c => [c]

/-- What is written after a backslash, and what follows it. -/
def escape? : Text → Option (Text × Text)
  | [] => none
  | 'x' :: t => do
    let (n, rest) ← Number.hexNumber? 4 0 t
    return ([← Number.charOf? n], rest)
  | c :: t => some (escaped c, t)

/-- The text up to one of the characters that end it, and what follows from there on, in at most
`steps` steps.  `mayRunOut` tells whether the whole text may end first. -/
def upto? (isEnd : Char → Bool) (mayRunOut : Bool) : (steps : Nat) → Text → Option (Text × Text)
  | 0, _ => none
  | _ + 1, [] => if mayRunOut then some ([], []) else none
  | steps + 1, c :: t =>
    if isEnd c then some ([], c :: t)
    else do
      let (x, rest) ← if c = '\\' then escape? t else some ([c], t)
      let (more, rest) ← upto? isEnd mayRunOut steps rest
      return (x ++ more, rest)

/-- The end of a line. -/
def isLineEnd (c : Char) : Bool :=
  c == '\n' || c == '\r'

/-- A value with the parts in quotation marks in front of it, of which there are at most `steps`,
and what follows; `first` tells that there are none before. -/
def value? (first : Bool) : (steps : Nat) → Text → Option (Text × Text)
  | 0, _ => none
  | _ + 1, [] => some ([], [])
  | steps + 1, c :: t =>
    if c = '"' || c = '\'' then do
      let (part, rest) ← upto? (· == c) false (t.length + 1) t
      let (more, rest) ← value? false steps (rest.drop 1)
      return (part ++ more, rest)
    else do
      let (line, rest) ← upto? isLineEnd true (t.length + 2) (c :: t)
      return (if first then Text.trim line else Text.trimEnd line, rest)

/-- A text without the white space at its front, up to the end of the line. -/
def skipBlanks (t : Text) : Text :=
  t.dropWhile fun c => Unicode.isWhiteSpace c && !isLineEnd c

/-- An entry at the front of a text, and what follows. -/
def entry? (t : Text) : Option ((Text × Text) × Text) := do
  let (name, rest) ← upto? (fun c => c == '=' || c == ':') false (t.length + 1) t
  let name := Text.trim name
  if name.isEmpty then none
  else
    let (value, rest) ← value? true (rest.length + 1) (skipBlanks (rest.drop 1))
    return ((name, value), rest)

/-- The name in brackets after an opening bracket, and what follows.  It is the only thing on its
line. -/
def header? (t : Text) : Option (Text × Text) := do
  let (line, rest) ← upto? isLineEnd false (t.length + 1) t
  match (line.reverse.dropWhile fun c => c == ' ' || c == '\t') with
  | ']' :: name => return (Text.trim name.reverse, rest)
  | _ => none

/-! ### Texts -/

/-- A table under construction: its name, if it is not the outermost one, and its entries. -/
abbrev Part := Option Text × List (Text × Setting)

/-- The parts of a text after a part, in at most `steps` steps.  `fresh` tells that a line begins
here; only there may a comment stand. -/
def partsFrom? : (steps : Nat) → (fresh : Bool) → Part → Text → Option (List Part)
  | 0, _, _, _ => none
  | steps + 1, fresh, part, t =>
    match t with
    | [] => some [part]
    | c :: rest =>
      if Unicode.isWhiteSpace c then partsFrom? steps (c == '\n') part rest
      else if c = ';' || c = '#' then
        if fresh then partsFrom? steps true part ((rest.dropWhile (· ≠ '\n')).drop 1) else none
      else if c = '[' then do
        let (name, rest) ← header? rest
        return part :: (← partsFrom? steps false (some name, []) rest)
      else do
        let ((name, value), rest) ← entry? t
        partsFrom? steps false (part.1, part.2 ++ [(name, .text value)]) rest

/-- The entries of the outermost table. -/
def entriesOf : List Part → List (Text × Setting)
  | [] => []
  | (none, es) :: rest => es ++ entriesOf rest
  | (some name, es) :: rest => (name, .table es) :: entriesOf rest

/-- Reads settings in INI. -/
def read : SettingsReader := fun t =>
  match partsFrom? (t.length + 1) true (none, []) t with
  | some parts => .ok (.table (entriesOf parts))
  | none => .error "invalid settings"

end Tabular.Settings.Ini
