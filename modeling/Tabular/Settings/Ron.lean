import Tabular.Number.Literal
import Tabular.Settings
import Tabular.Unicode.Classes

/-! # Settings in RON

Tables stand in braces with a value for each name, or in parentheses with bare names, in front of
which the name of a kind may stand; parentheses without names make a list.  A value may be `Some`
of a value or `None`.  Comments may be nested, and a comma may stand behind the last item. -/

namespace Tabular.Settings.Ron

/-! ### White space and comments -/

/-- White space between the pieces of a text. -/
def isSpace (c : Char) : Bool :=
  c == ' ' || (9 ≤ c.toNat && c.toNat ≤ 13) || c == '\u0085' || c == '\u200E' || c == '\u200F' ||
  c == '\u2028' || c == '\u2029'

/-- What follows comments nested `depth` deep. -/
def afterComment? : (depth : Nat) → Text → Option Text
  | 0, t => some t
  | depth + 1, '*' :: '/' :: t => afterComment? depth t
  | depth + 1, '/' :: '*' :: t => afterComment? (depth + 2) t
  | depth + 1, _ :: t => afterComment? (depth + 1) t
  | _ + 1, [] => none

/-- A text without the white space and the comments at its front, in at most `steps` steps. -/
def skipFrom : (steps : Nat) → Text → Text
  | 0, t => t
  | steps + 1, t =>
    match t.dropWhile isSpace with
    | '/' :: '/' :: t => skipFrom steps (t.dropWhile (· ≠ '\n'))
    | '/' :: '*' :: rest =>
      match afterComment? 1 rest with
      | some rest => skipFrom steps rest
      | none => '/' :: '*' :: rest
    | t => t

/-- A text without the white space and the comments at its front. -/
def skip (t : Text) : Text :=
  skipFrom (t.length + 1) t

/-! ### Names -/

/-- A letter of a name. -/
def isNameLetter (c : Char) : Bool :=
  Unicode.isAlphanumeric c || c == '_'

/-- A name at the front of a text, and what follows.  After `r#` a name may have points and signs
in it. -/
def name? (t : Text) : Option (Text × Text) :=
  match t with
  | 'b' :: '"' :: _ | 'b' :: '\'' :: _ | 'b' :: 'r' :: '#' :: _ | 'b' :: 'r' :: '"' :: _
  | 'r' :: '"' :: _ | 'r' :: '#' :: '"' :: _ | 'r' :: '#' :: '#' :: _ => none
  | 'r' :: '#' :: t =>
    let name := t.takeWhile fun c => isNameLetter c || c == '.' || c == '+' || c == '-'
    if name.isEmpty then none else some (name, t.drop name.length)
  | t =>
    let name := t.takeWhile isNameLetter
    if name.isEmpty || name.head?.any Char.isDigit then none else some (name, t.drop name.length)

/-! ### Texts -/

/-- The character that a letter after a backslash stands for. -/
def escaped? : Char → Option Char
  | '\'' => some '\''
  | '"' => some '"'
  | '\\' => some '\\'
  | 'n' => some '\n'
  | 'r' => some '\r'
  | 't' => some '\t'
  | '0' => some '\x00'
  | _ => none

/-- The character that is written after a backslash, and what follows it. -/
def escape? : Text → Option (Char × Text)
  | [] => none
  | 'x' :: t => do
    let (n, rest) ← Number.hexNumber? 2 0 t
    return (← Number.charOf? n, rest)
  | 'u' :: '\x7b' :: t => do
    let digits := t.takeWhile (Number.isDigitOf 16)
    let rest ← Text.after? ['\x7d'] (t.drop digits.length)
    if 6 < digits.length then none
    else return (← Number.charOf? (← Number.digitsValue? 16 digits), rest)
  | c :: t => (escaped? c).map (·, t)

/-- The text up to a quotation mark, and what follows the mark, in at most `steps` steps. -/
def stringFrom? : (steps : Nat) → Text → Option (Text × Text)
  | 0, _ | _, [] => none
  | steps + 1, c :: t =>
    if c = '"' then some ([], t)
    else do
      let (x, rest) ← if c = '\\' then escape? t else some (c, t)
      let (more, rest) ← stringFrom? steps rest
      return (x :: more, rest)

/-- The text up to the mark that closes it, and what follows the mark. -/
def rawFrom? (mark : Text) : Text → Option (Text × Text)
  | [] => none
  | c :: t =>
    match Text.after? mark (c :: t) with
    | some rest => some ([], rest)
    | none => (rawFrom? mark t).map fun (more, rest) => (c :: more, rest)

/-- A text at the front of a text, and what follows.  One after `r` ends at a quotation mark with
as many number signs as the one that opens it has. -/
def string? : Text → Option (Text × Text)
  | '"' :: t => stringFrom? (t.length + 1) t
  | 'r' :: t =>
    let signs := t.takeWhile (· = '#')
    match t.drop signs.length with
    | '"' :: t => rawFrom? ('"' :: signs) t
    | _ => none
  | _ => none

/-- A single character at the front of a text, and what follows. -/
def character? : Text → Option (Char × Text)
  | '\'' :: c :: t => do
    let (x, rest) ← if c = '\\' then escape? t else some (c, t)
    return (x, ← Text.after? ['\''] rest)
  | _ => none

/-! ### Numbers -/

/-- The names of kinds of numbers that may stand behind a number. -/
def suffixes : List Text :=
  ["i8", "i16", "i32", "i64", "u8", "u16", "u32", "u64", "f32", "f64"].map String.toList

/-- What follows a number and the name of its kind. -/
def afterSuffix? (t : Text) : Option Text :=
  let suffix := t.takeWhile isNameLetter
  if suffix.isEmpty then some t
  else if suffixes.contains suffix then some (t.drop suffix.length)
  else none

/-- A text without the underscores in it. -/
def withoutUnderscores (t : Text) : Text :=
  t.filter (· ≠ '_')

/-- A whole number to a base at the front of a text, and what follows. -/
def based? (base : Nat) (t : Text) : Option (Nat × Text) :=
  let digits := t.takeWhile fun c => Number.isDigitOf base c || c == '_'
  if digits.head? = some '_' then none
  else (Number.digitsValue? base (withoutUnderscores digits)).map (·, t.drop digits.length)

/-- The size of a whole number, to the base that is named in front of it. -/
def magnitude? : Text → Option (Nat × Text)
  | '0' :: 'x' :: t => based? 16 t
  | '0' :: 'o' :: t => based? 8 t
  | '0' :: 'b' :: t => based? 2 t
  | _ => none

/-- A character of a number to the base 10. -/
def isNumeral (c : Char) : Bool :=
  c.isDigit || c == '.' || c == 'e' || c == 'E' || c == '+' || c == '-' || c == '_'

/-- The setting that a whole number is, if it is in bounds. -/
def ofInteger? (n : Int) : Option Setting :=
  if -(Nat.pow 2 63 : Int) ≤ n && n < Nat.pow 2 64 then some (.integer n) else none

/-- A number to the base 10 at the front of a text, and what follows. -/
def decimal? (t : Text) : Option (Setting × Text) :=
  let front := t.takeWhile isNumeral
  let rest := t.drop front.length
  match Number.Literal.scan? (withoutUnderscores front) with
  | some (l, []) =>
    match l with
    | .infinity _ => none
    | .decimal sign whole none none =>
      let n : Int := Number.natOfDigits whole
      some ((ofInteger? (if sign = some '-' then -n else n)).getD (.float l.value), rest)
    | .decimal .. => some (.float l.value, rest)
  | _ => none

/-- The words for what is no number or not bounded, with the sign in front of it. -/
def unbounded? (negative : Bool) (t : Text) : Option (Setting × Text) :=
  match name? t with
  | some (name, rest) =>
    if name = "inf".toList then some (.float ⟨negative, Number.Binary64.infiniteUnits⟩, rest)
    else if name = "NaN".toList then some (.text "NaN".toList, rest)
    else none
  | none => none

/-- A number at the front of a text, and what follows. -/
def number? (t : Text) : Option (Setting × Text) := do
  let negative := t.head? == some '-'
  let body := if negative || t.head? == some '+' then t.drop 1 else t
  match unbounded? negative body, magnitude? body with
  | some found, _ => return found
  | none, some (n, rest) =>
    return (← ofInteger? (if negative then -(n : Int) else n), ← afterSuffix? rest)
  | none, none =>
    let (s, rest) ← decimal? t
    return (s, ← afterSuffix? rest)

/-! ### Lists and tables -/

/-- Whether the names of a table begin here: a name with a colon behind it. -/
def startsTable (t : Text) : Bool :=
  match name? t with
  | some (_, rest) => (skip rest).head? == some ':'
  | none => false

/-- The name that a value is. -/
def nameOf? : Setting → Option Text
  | .text t => some t
  | _ => none

mutual

/-- A value at the front of a text, and what follows. -/
def value? : (steps : Nat) → Text → Option (Setting × Text)
  | 0, _ => none
  | steps + 1, t =>
    match t with
    | '(' :: t => group? steps (skip t)
    | '[' :: t => (items? ']' steps (skip t)).map fun (vs, rest) => (.list vs, rest)
    | '\x7b' :: t => (members? false '\x7d' steps (skip t)).map fun (es, rest) => (.table es, rest)
    | '\'' :: _ => (character? t).map fun (c, rest) => (.text [c], rest)
    | t =>
      match string? t, unbounded? false t, name? t with
      | some (s, rest), _, _ => some (.text s, rest)
      | none, some found, _ => some found
      | none, none, none => number? t
      | none, none, some (name, rest) => named? steps name (skip rest)

/-- A value that begins with a name. -/
def named? : (steps : Nat) → (name : Text) → Text → Option (Setting × Text)
  | 0, _, _ => none
  | steps + 1, name, t =>
    if name = "true".toList then some (.bool true, t)
    else if name = "false".toList then some (.bool false, t)
    else if name = "None".toList then some (.nothing, t)
    else if name = "Some".toList then do
      let (v, rest) ← value? steps (skip (← Text.after? ['('] t))
      return (v, ← Text.after? [')'] (skip rest))
    else
      match t with
      | '(' :: t => group? steps (skip t)
      | t => some (.nothing, t)

/-- What stands between parentheses, after the opening one. -/
def group? : (steps : Nat) → Text → Option (Setting × Text)
  | 0, _ => none
  | steps + 1, t =>
    match t with
    | ')' :: rest => some (.nothing, rest)
    | t =>
      if startsTable t then
        (members? true ')' steps t).map fun (es, rest) => (.table es, rest)
      else (items? ')' steps t).map fun (vs, rest) => (.list vs, rest)

/-- The items of a list up to the character that closes it. -/
def items? (close : Char) : (steps : Nat) → Text → Option (List Setting × Text)
  | 0, _ => none
  | _ + 1, [] => none
  | steps + 1, c :: t =>
    if c = close then some ([], t)
    else do
      let (v, rest) ← value? steps (c :: t)
      match skip rest with
      | ',' :: rest =>
        let (vs, rest) ← items? close steps (skip rest)
        return (v :: vs, rest)
      | d :: rest => if d = close then some ([v], rest) else none
      | [] => none

/-- The members of a table up to the character that closes it; `bare` tells whether their names
are not values. -/
def members? (bare : Bool) (close : Char) : (steps : Nat) → Text →
    Option (List (Text × Setting) × Text)
  | 0, _ => none
  | _ + 1, [] => none
  | steps + 1, c :: t =>
    if c = close then some ([], t)
    else do
      let (name, rest) ← if bare then name? (c :: t) else
        (value? steps (c :: t)).bind fun (v, rest) => (nameOf? v).map (·, rest)
      let (v, rest) ← value? steps (skip (← Text.after? [':'] (skip rest)))
      match skip rest with
      | ',' :: rest =>
        let (es, rest) ← members? bare close steps (skip rest)
        return ((name, v) :: es, rest)
      | d :: rest => if d = close then some ([(name, v)], rest) else none
      | [] => none

end

/-! ### Texts -/

/-- A text without the lines at its front that switch extensions on, of which there are at most
`steps`. -/
def skipExtensions : (steps : Nat) → Text → Text
  | 0, t => t
  | steps + 1, t =>
    match Text.after? "#![enable(".toList t with
    | some rest =>
      match Text.after? ")]".toList (rest.dropWhile (· ≠ ')')) with
      | some rest => skipExtensions steps (skip rest)
      | none => t
    | none => t

/-- Reads settings in RON. -/
def read : SettingsReader := fun t =>
  match value? (2 * t.length + 1) (skipExtensions t.length (skip t)) with
  | some (v, rest) => if (skip rest).isEmpty then .ok v else .error "trailing characters"
  | none => .error "expected value"

end Tabular.Settings.Ron
