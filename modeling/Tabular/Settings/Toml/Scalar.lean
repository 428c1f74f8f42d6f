import Tabular.Settings
import Tabular.Settings.Toml.Moment

/-! # Texts, numbers and words in TOML

A text stands between quotation marks, which are double marks if backslashes have a meaning in it
and single ones if not; three marks open and close a text of several lines, whose first end of a
line does not count.  Everything else is a bare scalar: a truth value, a number or a moment.  An
underscore may stand between two digits of a number. -/

namespace Tabular.Settings.Toml

/-! ### Blanks and comments -/

/-- A space or a tab. -/
def isBlank (c : Char) : Bool :=
  c == ' ' || c == '\t'

/-- A text without the blanks at its front. -/
def skipBlanks (t : Text) : Text :=
  t.dropWhile isBlank

/-- Controls, apart from the tab. -/
def isControl (c : Char) : Bool :=
  (c.toNat < 0x20 && c != '\t') || c.toNat == 0x7F

/-- What follows the end of a line. -/
def afterLine? : Text → Option Text
  | '\n' :: t | '\r' :: '\n' :: t => some t
  | _ => none

/-- A text without the blanks and the comment at its front.  A comment goes up to the first
control, which can only be the end of the line. -/
def skipComment (t : Text) : Text :=
  match skipBlanks t with
  | '#' :: t => t.dropWhile fun c => !isControl c
  | t => t

/-- A text without the blanks, the comments and the ends of lines at its front, of which there are
at most `steps`. -/
def skipLines : (steps : Nat) → Text → Text
  | 0, t => t
  | steps + 1, t =>
    match afterLine? (skipComment t) with
    | some rest => skipLines steps rest
    | none => skipComment t

/-- A text without the blanks, the comments and the ends of lines at its front. -/
def skipGap (t : Text) : Text :=
  skipLines (t.length + 1) t

/-! ### Texts -/

/-- The character that a letter after a backslash stands for. -/
def escaped? : Char → Option Char
  | 'b' => some '\x08'
  | 't' => some '\t'
  | 'n' => some '\n'
  | 'f' => some '\x0C'
  | 'r' => some '\r'
  | 'e' => some '\x1B'
  | '"' => some '"'
  | '\\' => some '\\'
  | _ => none

/-- The number of digits that follow a letter after a backslash. -/
def escapeDigits? : Char → Option Nat
  | 'x' => some 2
  | 'u' => some 4
  | 'U' => some 8
  | _ => none

/-- The character that is written after a backslash, and what follows it. -/
def escape? : Text → Option (Char × Text)
  | [] => none
  | c :: t =>
    match escapeDigits? c with
    | some count => do
      let (n, rest) ← Number.hexNumber? count 0 t
      return (← Number.charOf? n, rest)
    | none => (escaped? c).map (·, t)

/-- The text up to a quotation mark on the same line, and what follows the mark, in at most
`steps` steps. -/
def lineFrom? (mark : Char) : (steps : Nat) → Text → Option (Text × Text)
  | 0, _ | _, [] => none
  | steps + 1, c :: t =>
    if c = mark then some ([], t)
    else if isControl c then none
    else do
      let (x, rest) ← if c = '\\' && mark = '"' then escape? t else some (c, t)
      let (more, rest) ← lineFrom? mark steps rest
      return (x :: more, rest)

/-- What follows a backslash at the end of a line: the ends of lines and the blanks after it do
not count. -/
def afterContinuation? (t : Text) : Option Text :=
  match afterLine? (skipBlanks t) with
  | some rest => some (rest.dropWhile fun c => isBlank c || c = '\n' || c = '\r')
  | none => none

/-- The end of a text of several lines: of three to five marks, the last three close it. -/
def closing? (mark : Char) (t : Text) : Option (Text × Text) :=
  let marks := (t.take 5).takeWhile (· = mark)
  if marks.length < 3 then none else some (marks.drop 3, t.drop marks.length)

/-- The text up to three quotation marks, and what follows them, in at most `steps` steps. -/
def linesFrom? (mark : Char) : (steps : Nat) → Text → Option (Text × Text)
  | 0, _ | _, [] => none
  | steps + 1, c :: t =>
    match closing? mark (c :: t) with
    | some (last, rest) => some (last, rest)
    | none =>
      if c = '\\' && mark = '"' then
        match afterContinuation? t with
        | some rest => linesFrom? mark steps rest
        | none => do
          let (x, rest) ← escape? t
          let (more, rest) ← linesFrom? mark steps rest
          return (x :: more, rest)
      else if isControl c && c != '\n' && !(c == '\r' && t.head? == some '\n') then none
      else do
        let (more, rest) ← linesFrom? mark steps t
        return (c :: more, rest)

/-- A text on one line at the front of a text, and what follows. -/
def line? : Text → Option (Text × Text)
  | c :: t => if c = '"' || c = '\'' then lineFrom? c (t.length + 1) t else none
  | [] => none

/-- A text at the front of a text, and what follows. -/
def text? : Text → Option (Text × Text)
  | a :: b :: c :: t =>
    if (a = '"' || a = '\'') && b = a && c = a then
      linesFrom? a (t.length + 1) ((afterLine? t).getD t)
    else line? (a :: b :: c :: t)
  | t => line? t

/-! ### Bare scalars -/

/-- Digits to a base without the underscores, each of which has to stand between two digits. -/
def joined? (isDigit : Char → Bool) : Text → Option Text
  | [] => some []
  | '_' :: _ => none
  | c :: '_' :: d :: t =>
    if isDigit c && isDigit d then (joined? isDigit (d :: t)).map (c :: ·) else none
  | c :: t => (joined? isDigit t).map (c :: ·)

/-- A whole number to the base that is named in front of it. -/
def basedInteger? (base : Nat) (t : Text) : Option Setting :=
  ((joined? (Number.isDigitOf base) t).bind (Number.digitsValue? base)).bind fun n =>
    if Setting.holds n then some (.integer n) else none

/-- The words for what is no number or not bounded. -/
def unbounded? : Text → Option Setting
  | ['n', 'a', 'n'] => some (.text "NaN".toList)
  | ['i', 'n', 'f'] => some (.float ⟨false, Number.Binary64.infiniteUnits⟩)
  | _ => none

/-- The number that a literal is. -/
def ofLiteral? (l : Number.Literal) : Option Setting :=
  match l with
  | .infinity _ => none
  | .decimal sign whole fraction exponent =>
    if !l.isProper || l.value.isInfinite then none
    else if fraction.isSome || exponent.isSome then some (.float l.value)
    else
      let n : Int := Number.natOfDigits whole
      let n := if sign = some '-' then -n else n
      if Setting.holds n then some (.integer n) else none

/-- A text that is a number to the base 10. -/
def decimal? (t : Text) : Option Setting := do
  match Number.Literal.scan? (← joined? Char.isDigit t) with
  | some (l, []) => ofLiteral? l
  | _ => none

/-- A text that is a number. -/
def number? : Text → Option Setting
  | '0' :: 'x' :: t => basedInteger? 16 t
  | '0' :: 'o' :: t => basedInteger? 8 t
  | '0' :: 'b' :: t => basedInteger? 2 t
  | '-' :: 'i' :: 'n' :: 'f' :: [] => some (.float ⟨true, Number.Binary64.infiniteUnits⟩)
  | '+' :: 'i' :: t => unbounded? ('i' :: t)
  | '+' :: 'n' :: t | '-' :: 'n' :: t => unbounded? ('n' :: t)
  | t => (unbounded? t).or (decimal? t)

/-- The setting that a bare scalar is. -/
def ofBare? (t : Text) : Option Setting :=
  if t = "true".toList then some (.bool true)
  else if t = "false".toList then some (.bool false)
  else ((moment? t).map Setting.text).or (number? t)

/-- A character of a bare scalar. -/
def isBareScalar (c : Char) : Bool :=
  c.isAlphanum || c == '_' || c == '+' || c == '-' || c == '.' || c == ':'

/-- The characters of a bare scalar at the front of a text, and what follows.  A date may go on
after a space. -/
def bare (t : Text) : Text × Text :=
  let front := t.takeWhile isBareScalar
  match t.drop front.length with
  | ' ' :: c :: rest =>
    if c.isDigit && (date? front).any (·.2.isEmpty) then
      (front ++ ' ' :: (c :: rest).takeWhile isBareScalar, (c :: rest).dropWhile isBareScalar)
    else (front, ' ' :: c :: rest)
  | rest => (front, rest)

/-- A scalar at the front of a text, and what follows. -/
def scalar? (t : Text) : Option (Setting × Text) :=
  match t with
  | '"' :: _ | '\'' :: _ => (text? t).map fun (s, rest) => (.text s, rest)
  | _ => (ofBare? (bare t).1).map (·, (bare t).2)

end Tabular.Settings.Toml
