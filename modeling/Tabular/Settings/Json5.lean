import Tabular.Settings.Json
import Tabular.Unicode.Classes

/-! # Settings in JSON5

Over JSON there are comments, names without quotation marks, texts in single ones, a comma behind
the last item, and numbers that begin or end with a point, have a plus sign, are not bounded or are
written to the base 16. -/

namespace Tabular.Settings.Json5

/-! ### White space and comments -/

/-- A character that ends a line. -/
def isLineEnd (c : Char) : Bool :=
  c == '\n' || c == '\r' || c == '\u2028' || c == '\u2029'

/-- White space between the pieces of a text. -/
def isSpace (c : Char) : Bool :=
  (Unicode.isWhiteSpace c && c != '\u0085') || c == '\uFEFF'

/-- What follows the end of a comment. -/
def afterComment? : Text → Option Text
  | '*' :: '/' :: t => some t
  | _ :: t => afterComment? t
  | [] => none

/-- A text without the white space and the comments at its front, in at most `steps` steps. -/
def skipFrom : (steps : Nat) → Text → Text
  | 0, t => t
  | steps + 1, t =>
    match t.dropWhile isSpace with
    | '/' :: '/' :: t => skipFrom steps (t.dropWhile fun c => !isLineEnd c)
    | '/' :: '*' :: rest =>
      match afterComment? rest with
      | some rest => skipFrom steps rest
      | none => '/' :: '*' :: rest
    | t => t

/-- A text without the white space and the comments at its front. -/
def skip (t : Text) : Text :=
  skipFrom (t.length + 1) t

/-! ### Texts and names -/

/-- The character that a letter after a backslash stands for; most letters stand for
themselves. -/
def escaped? : Char → Option Char
  | 'b' => some '\x08'
  | 'f' => some '\x0C'
  | 'n' => some '\n'
  | 'r' => some '\r'
  | 't' => some '\t'
  | 'v' => some '\x0B'
  | '0' => some '\x00'
  | c => if c.isDigit then none else some c

/-- What is written after a backslash, and what follows it; the end of a line is nothing. -/
def escape? : Text → Option (Text × Text)
  | [] => none
  | '\r' :: '\n' :: t => some ([], t)
  | 'x' :: t => do
    let (n, rest) ← Number.hexNumber? 2 0 t
    return ([← Number.charOf? n], rest)
  | 'u' :: t => (Json.unicode? t).map fun (c, rest) => ([c], rest)
  | c :: t => if isLineEnd c then some ([], t) else (escaped? c).map fun x => ([x], t)

/-- The text up to a quotation mark, and what follows the mark, in at most `steps` steps. -/
def stringFrom? (mark : Char) : (steps : Nat) → Text → Option (Text × Text)
  | 0, _ | _, [] => none
  | steps + 1, c :: t =>
    if c = mark then some ([], t)
    else if isLineEnd c then none
    else do
      let (x, rest) ← if c = '\\' then escape? t else some ([c], t)
      let (more, rest) ← stringFrom? mark steps rest
      return (x ++ more, rest)

/-- A text between quotation marks at the front of a text, and what follows. -/
def string? : Text → Option (Text × Text)
  | c :: t => if c = '"' || c = '\'' then stringFrom? c (t.length + 1) t else none
  | [] => none

/-- A letter of a name. -/
def isNameLetter (c : Char) : Bool :=
  Unicode.isAlphanumeric c || c == '$' || c == '_' || c == '\u200C' || c == '\u200D'

/-- The letters of a name at the front of a text, and what follows, in at most `steps` steps. -/
def nameFrom : (steps : Nat) → Text → Text × Text
  | 0, t => ([], t)
  | steps + 1, t =>
    match t with
    | '\\' :: 'u' :: rest =>
      match Json.unicode? rest with
      | some (c, rest) => let (more, rest) := nameFrom steps rest; (c :: more, rest)
      | none => ([], t)
    | c :: rest =>
      if isNameLetter c then let (more, rest) := nameFrom steps rest; (c :: more, rest)
      else ([], t)
    | [] => ([], [])

/-- The name of a member at the front of a text, and what follows. -/
def name? (t : Text) : Option (Text × Text) :=
  match string? t with
  | some found => some found
  | none =>
    let (name, rest) := nameFrom t.length t
    if name.isEmpty || t.head?.any Char.isDigit then none else some (name, rest)

/-! ### Numbers -/

/-- The largest number that can be written to the base 16. -/
def hexLimit : Nat :=
  Nat.pow 2 32

/-- Whether a literal is written with digits alone, so that it is a whole number. -/
def isWhole (fraction : Option Text) (exponent : Option Number.Exponent) : Bool :=
  fraction.isNone && exponent.isNone

/-- The setting of a literal. -/
def ofLiteral? (l : Number.Literal) : Option Setting :=
  match l with
  | .infinity sign => if sign = some '+' then none else some (.float l.value)
  | .decimal sign whole fraction exponent =>
    if (whole.isEmpty && fraction.isNone) || (!whole.isEmpty && !Number.isProperWhole whole)
        || l.value.isInfinite then none
    else if isWhole fraction exponent then
      let n : Int := Number.natOfDigits whole
      let n := if sign = some '-' then -n else n
      if Setting.holds n then some (.integer n) else none
    else some (.float l.value)

/-- A number at the front of a text, and what follows. -/
def number? (t : Text) : Option (Setting × Text) :=
  match t with
  | '0' :: x :: t' =>
    if x = 'x' || x = 'X' then
      let digits := t'.takeWhile (Number.isDigitOf 16)
      match Number.digitsValue? 16 digits with
      | some n => if n < hexLimit then some (.integer n, t'.drop digits.length) else none
      | none => none
    else decimal?
  | _ => ((Text.after? "NaN".toList t).or (Text.after? "-NaN".toList t)).elim decimal? fun rest =>
    some (.text "NaN".toList, rest)
where
  /-- A number to the base 10. -/
  decimal? : Option (Setting × Text) := do
    let (l, rest) ← Number.Literal.scan? t
    return (← ofLiteral? l, rest)

/-! ### Lists and tables -/

mutual

/-- A value at the front of a text, and what follows. -/
def value? : (steps : Nat) → Text → Option (Setting × Text)
  | 0, _ => none
  | steps + 1, t =>
    match skip t with
    | '[' :: t => (items? steps (skip t)).map fun (vs, rest) => (.list vs, rest)
    | '\x7b' :: t => (members? steps (skip t)).map fun (es, rest) => (.table es, rest)
    | t =>
      match Json.word? t, string? t with
      | some found, _ => some found
      | none, some (s, rest) => some (.text s, rest)
      | none, none => number? t

/-- The items of a list up to its closing bracket. -/
def items? : (steps : Nat) → Text → Option (List Setting × Text)
  | 0, _ => none
  | steps + 1, t =>
    match t with
    | ']' :: rest => some ([], rest)
    | t => do
      let (v, rest) ← value? steps t
      match skip rest with
      | ',' :: rest =>
        let (vs, rest) ← items? steps (skip rest)
        return (v :: vs, rest)
      | ']' :: rest => return ([v], rest)
      | _ => none

/-- The members of a table up to its closing brace. -/
def members? : (steps : Nat) → Text → Option (List (Text × Setting) × Text)
  | 0, _ => none
  | steps + 1, t =>
    match t with
    | '\x7d' :: rest => some ([], rest)
    | t => do
      let (name, rest) ← name? t
      let (v, rest) ← value? steps (← Text.after? [':'] (skip rest))
      match skip rest with
      | ',' :: rest =>
        let (es, rest) ← members? steps (skip rest)
        return ((name, v) :: es, rest)
      | '\x7d' :: rest => return ([(name, v)], rest)
      | _ => none

end

/-- Reads settings in JSON5. -/
def read : SettingsReader := fun t =>
  match value? (t.length + 1) t with
  | some (v, rest) => if (skip rest).isEmpty then .ok v else .error "trailing characters"
  | none => .error "expected value"

end Tabular.Settings.Json5
