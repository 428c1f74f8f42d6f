import Tabular.Number.Literal
import Tabular.Settings

/-! # Settings in JSON

Whole numbers that are out of bounds are decimals, and so is minus zero. -/

namespace Tabular.Settings.Json

/-! ### Scalars -/

/-- White space between the pieces of a text. -/
def isSpace (c : Char) : Bool :=
  c == ' ' || c == '\n' || c == '\t' || c == '\r'

/-- A text without the white space at its front. -/
def skipSpace (t : Text) : Text :=
  t.dropWhile isSpace

/-- The character that a letter after a backslash stands for. -/
def escaped? : Char → Option Char
  | '"' => some '"'
  | '\\' => some '\\'
  | '/' => some '/'
  | 'b' => some '\x08'
  | 'f' => some '\x0C'
  | 'n' => some '\n'
  | 'r' => some '\r'
  | 't' => some '\t'
  | _ => none

/-- The number that four digits to the base 16 write. -/
def unit? (t : Text) : Option (Nat × Text) :=
  Number.hexNumber? 4 0 t

/-- The character after a backslash and `u`; a character beyond the first plane takes two units. -/
def unicode? (t : Text) : Option (Char × Text) :=
  match unit? t with
  | none => none
  | some (n, rest) =>
    if 0xD800 ≤ n && n ≤ 0xDBFF then
      match rest with
      | '\\' :: 'u' :: rest =>
        match unit? rest with
        | some (m, rest) =>
          if 0xDC00 ≤ m && m ≤ 0xDFFF then
            some (Char.ofNat (0x10000 + (n - 0xD800) * 0x400 + (m - 0xDC00)), rest)
          else none
        | none => none
      | _ => none
    else if 0xDC00 ≤ n && n ≤ 0xDFFF then none
    else some (Char.ofNat n, rest)

/-- The text up to the closing quotation mark, and what follows it, in at most `steps` steps. -/
def stringFrom : (steps : Nat) → Text → Option (Text × Text)
  | 0, _ => none
  | _ + 1, [] => none
  | steps + 1, c :: t =>
    if c = '"' then some ([], t)
    else if c.toNat < 0x20 then none
    else if c = '\\' then
      match t with
      | 'u' :: t => do
        let (x, rest) ← unicode? t
        let (more, rest) ← stringFrom steps rest
        return (x :: more, rest)
      | d :: t => do
        let x ← escaped? d
        let (more, rest) ← stringFrom steps t
        return (x :: more, rest)
      | [] => none
    else do
      let (more, rest) ← stringFrom steps t
      return (c :: more, rest)

/-- The text after an opening quotation mark. -/
def string? (t : Text) : Option (Text × Text) :=
  stringFrom (t.length + 1) t

/-- The setting of a literal, if it is a number as it has to be written. -/
def ofLiteral? (l : Number.Literal) : Option Setting :=
  match l with
  | .infinity _ => none
  | .decimal sign whole fraction exponent =>
    if sign = some '+' || !l.isProper || l.value.isInfinite then none
    else
      let n : Int := Number.natOfDigits whole
      if fraction.isSome || exponent.isSome || (sign.isSome && n = 0) then some (.float l.value)
      else
        let n := if sign.isSome then -n else n
        some (if Setting.holds n then .integer n else .float l.value)

/-- A number at the front of a text. -/
def number? (t : Text) : Option (Setting × Text) := do
  let (l, rest) ← Number.Literal.scan? t
  if rest.head?.any fun c => c = 'e' || c = 'E' then none
  return (← ofLiteral? l, rest)

/-- A word at the front of a text. -/
def word? (t : Text) : Option (Setting × Text) :=
  match Text.after? "true".toList t, Text.after? "false".toList t, Text.after? "null".toList t with
  | some rest, _, _ => some (.bool true, rest)
  | _, some rest, _ => some (.bool false, rest)
  | _, _, some rest => some (.nothing, rest)
  | _, _, _ => none

/-! ### Lists and tables -/

mutual

/-- A value at the front of a text; lists and tables are at most `depth` deep. -/
def value? : (steps depth : Nat) → Text → Option (Setting × Text)
  | 0, _, _ => none
  | steps + 1, depth, t =>
    match skipSpace t with
    | '"' :: t => (string? t).map fun (s, rest) => (.text s, rest)
    | '[' :: t =>
      if depth ≤ 1 then none
      else
        match skipSpace t with
        | ']' :: rest => some (.list [], rest)
        | t => (items? steps (depth - 1) t).map fun (vs, rest) => (.list vs, rest)
    | '\x7b' :: t =>
      if depth ≤ 1 then none
      else
        match skipSpace t with
        | '\x7d' :: rest => some (.table [], rest)
        | t => (members? steps (depth - 1) t).map fun (vs, rest) => (.table vs, rest)
    | t => (number? t).or (word? t)

/-- The items of a list up to its closing bracket. -/
def items? : (steps depth : Nat) → Text → Option (List Setting × Text)
  | 0, _, _ => none
  | steps + 1, depth, t => do
    let (v, rest) ← value? steps depth t
    match skipSpace rest with
    | ',' :: rest =>
      let (vs, rest) ← items? steps depth rest
      return (v :: vs, rest)
    | ']' :: rest => return ([v], rest)
    | _ => none

/-- The members of a table up to its closing brace. -/
def members? : (steps depth : Nat) → Text → Option (List (Text × Setting) × Text)
  | 0, _, _ => none
  | steps + 1, depth, t => do
    match skipSpace t with
    | '"' :: t =>
      let (name, rest) ← string? t
      match skipSpace rest with
      | ':' :: rest =>
        let (v, rest) ← value? steps depth rest
        match skipSpace rest with
        | ',' :: rest =>
          let (vs, rest) ← members? steps depth rest
          return ((name, v) :: vs, rest)
        | '\x7d' :: rest => return ([(name, v)], rest)
        | _ => none
      | _ => none
    | _ => none

end

/-- The depth of the deepest list or table. -/
def depthLimit : Nat := 128

/-- Reads settings in JSON. -/
def read : SettingsReader := fun t =>
  match value? (t.length + 1) depthLimit t with
  | some (v, rest) => if (skipSpace rest).isEmpty then .ok v else .error "trailing characters"
  | none => .error "expected value"

end Tabular.Settings.Json
