import Tabular.Number.Literal
import Tabular.Yaml.Character

/-! # Reading scalars

A scalar may go over several lines.  In plain and quoted scalars one end of a line counts as a
space, and of several the first one does not count; in a folded block the same holds between lines
that do not begin with a blank.  Every reader gives the text of the scalar and what follows it. -/

namespace Tabular.Yaml

/-! ### Gaps between words -/

/-- What stands between two words of a scalar: blanks, or ends of lines of which the first one is
kept apart. -/
structure Gap where
  blanks : Text
  lines : Option (Text × Text)
  deriving Repr

namespace Gap

/-- Nothing between two words. -/
def none : Gap :=
  ⟨[], .none⟩

/-- With one more blank; blanks after the end of a line do not count. -/
def addBlank (g : Gap) (c : Char) : Gap :=
  match g.lines with
  | .none => { g with blanks := g.blanks ++ [c] }
  | some _ => g

/-- With one more end of a line. -/
def addBreak (g : Gap) (t : Text) : Gap :=
  match g.lines with
  | .none => ⟨[], some (t, [])⟩
  | some (first, more) => ⟨[], some (first, more ++ t)⟩

/-- A first end of a line folded: it becomes a space unless other ends follow. -/
def folded (first more : Text) : Text :=
  if first = ['\n'] then (if more.isEmpty then [' '] else more) else first ++ more

/-- The gap as it counts in the scalar. -/
def text (g : Gap) : Text :=
  match g.lines with
  | .none => g.blanks
  | some (first, more) => folded first more

end Gap

/-! ### Plain scalars -/

/-- A word of a plain scalar and what follows it. -/
def plainWord (flow : Bool) : Text → Except Error (Text × Text)
  | [] => .ok ([], [])
  | c :: t =>
    if isGap c then .ok ([], c :: t)
    else if flow && c == ':' && t.head?.any (fun d => d == ',' || d == '?' || isBracket d) then
      .error .colonInFlow
    else if c == ':' && startsGap t then .ok ([], c :: t)
    else if flow && (c == ',' || isBracket c) then .ok ([], c :: t)
    else (plainWord flow t).map fun (word, rest) => (c :: word, rest)

/-- The gap after a word of a plain scalar, the column after it and what follows.  A tab may not
stand in for the indentation. -/
def plainGap (indent : Int) (g : Gap) (column : Nat) : Text → Except Error (Gap × Nat × Text)
  | [] => .ok (g, column, [])
  | '\r' :: '\n' :: t => plainGap indent (g.addBreak ['\n']) 0 t
  | c :: t =>
    if c == '\t' && g.lines.isSome && column < indent then .error .tabIndentation
    else if isBlank c then plainGap indent (g.addBlank c) (column + 1) t
    else if isBreak c then plainGap indent (g.addBreak (breakText c)) 0 t
    else .ok (g, column, c :: t)

/-- The words of a plain scalar, of which there are at most `steps`.  Also tells whether the last
gap has the end of a line in it. -/
def plainWords (flow : Bool) (indent : Int) : (steps : Nat) → Gap → (column : Nat) → Text →
    Except Error (Text × Text × Bool)
  | 0, g, _, t => .ok ([], t, g.lines.isSome)
  | steps + 1, g, column, t => do
    if (column = 0 && startsDocumentMark t) || t.head? == some '#' then
      return ([], t, g.lines.isSome)
    let (word, rest) ← plainWord flow t
    let front := if word.isEmpty then [] else g.text ++ word
    let g := if word.isEmpty then g else .none
    if !rest.head?.any isGap then return (front, rest, g.lines.isSome)
    let (g, column, rest) ← plainGap indent g (column + word.length) rest
    if !flow && column < indent then return (front, rest, g.lines.isSome)
    let (more, rest, lines) ← plainWords flow indent steps g column rest
    return (front ++ more, rest, lines)

/-- A plain scalar at a column. -/
def plainScalar (flow : Bool) (indent : Int) (column : Nat) (t : Text) :
    Except Error (Text × Text × Bool) :=
  plainWords flow indent (t.length + 1) .none column t

/-! ### Quoted scalars -/

/-- The character that a letter after a backslash stands for. -/
def escaped? : Char → Option Char
  | '0' => some '\x00'
  | 'a' => some '\x07'
  | 'b' => some '\x08'
  | 't' => some '\t'
  | '\t' => some '\t'
  | 'n' => some '\n'
  | 'v' => some '\x0B'
  | 'f' => some '\x0C'
  | 'r' => some '\r'
  | 'e' => some '\x1B'
  | ' ' => some ' '
  | '"' => some '"'
  | '/' => some '/'
  | '\\' => some '\\'
  | 'N' => some '\u0085'
  | '_' => some '\u00A0'
  | 'L' => some '\u2028'
  | 'P' => some '\u2029'
  | _ => none

/-- The number of digits that follow a letter after a backslash. -/
def escapeDigits? : Char → Option Nat
  | 'x' => some 2
  | 'u' => some 4
  | 'U' => some 8
  | _ => none

/-- The character that is written after a backslash, and what follows it. -/
def escape : Text → Except Error (Char × Text)
  | [] => .error .unknownEscape
  | c :: t =>
    match escapeDigits? c with
    | some count =>
      match Number.hexNumber? count 0 t with
      | none => .error .escapeDigits
      | some (n, rest) =>
        match Number.charOf? n with
        | none => .error .escapeValue
        | some x => .ok (x, rest)
    | none =>
      match escaped? c with
      | none => .error .unknownEscape
      | some x => .ok (x, t)

/-- The text up to a closing quotation mark, and what follows it.  There are at most `steps`
characters. -/
def quotedFrom (quote : Char) : (steps : Nat) → Gap → (column : Nat) → Text →
    Except Error (Text × Text)
  | 0, _, _, _ => .error .endInQuotes
  | _ + 1, _, _, [] => .error .endInQuotes
  | steps + 1, g, column, c :: t =>
    if isBlank c then quotedFrom quote steps (g.addBlank c) (column + 1) t
    else
      match afterBreak? (c :: t) with
      | some (line, rest) => quotedFrom quote steps (g.addBreak line) 0 rest
      | none =>
        if column = 0 && startsDocumentMark (c :: t) then .error .markInQuotes
        else if c = quote then
          match t with
          | d :: t' =>
            if c = '\'' && d = '\'' then do
              let (more, rest) ← quotedFrom quote steps .none (column + 2) t'
              return (g.text ++ '\'' :: more, rest)
            else .ok (g.text, d :: t')
          | [] => .ok (g.text, [])
        else if c = '\\' && quote = '"' then
          match afterBreak? t with
          | some (_, rest) => do
            let (more, rest) ← quotedFrom quote steps ⟨[], some ([], [])⟩ 0 rest
            return (g.text ++ more, rest)
          | none => do
            let (x, rest) ← escape t
            let (more, rest) ← quotedFrom quote steps .none (column + 2) rest
            return (g.text ++ x :: more, rest)
        else do
          let (more, rest) ← quotedFrom quote steps .none (column + 1) t
          return (g.text ++ c :: more, rest)

/-- The scalar after an opening quotation mark at a column. -/
def quotedScalar (quote : Char) (column : Nat) (t : Text) : Except Error (Text × Text) :=
  quotedFrom quote (t.length + 1) .none (column + 1) t

/-! ### Blocks -/

/-- What becomes of the ends of lines at the end of a block. -/
inductive Chomping where
  | strip
  | clip
  | keep
  deriving DecidableEq, Repr

/-- The chomping that a sign in the header of a block asks for. -/
def chomping? (t : Text) : Option (Chomping × Text) :=
  match t with
  | '+' :: t => some (.keep, t)
  | '-' :: t => some (.strip, t)
  | _ => none

/-- The indentation that a digit in the header of a block asks for; zero if there is none. -/
def increment : Text → Except Error (Nat × Text)
  | c :: t =>
    if c = '0' then .error .blockHeader
    else if c.isDigit then .ok (c.toNat - '0'.toNat, t)
    else .ok (0, c :: t)
  | [] => .ok (0, [])

/-- A text without the blanks and the comment at its front. -/
def afterComment (t : Text) : Text :=
  match t.dropWhile isBlank with
  | '#' :: t => t.dropWhile fun c => !isBreak c
  | t => t

/-- The rest of a text after the end of a line, or after the end of the text. -/
def afterLine? (t : Text) : Option Text :=
  match t with
  | [] => some []
  | t => (afterBreak? t).map (·.2)

/-- The header of a block: its chomping and indentation, and the lines after it. -/
def blockHeader (t : Text) : Except Error (Chomping × Nat × Text) := do
  let (chomping, n, rest) ← match chomping? t with
    | some (chomping, t) => do
      let (n, rest) ← increment t
      pure (chomping, n, rest)
    | none => do
      let (n, rest) ← increment t
      match chomping? rest with
      | some (chomping, rest) => pure (chomping, n, rest)
      | none => pure (.clip, n, rest)
  match afterLine? (afterComment rest) with
  | some rest => return (chomping, n, rest)
  | none => throw .blockHeader

/-- The empty lines at the front of a text: their ends, the largest column reached, the column of
the first character that is not part of the indentation, and what follows.  Zero is an indentation
that is not yet known. -/
def emptyLines (indent : Nat) : (column largest : Nat) → Text →
    Except Error (Text × Nat × Nat × Text)
  | column, largest, [] => .ok ([], max largest column, column, [])
  | column, largest, '\r' :: '\n' :: t => do
    let (ends, largest, column, rest) ← emptyLines indent 0 (max largest column) t
    return ('\n' :: ends, largest, column, rest)
  | column, largest, c :: t =>
    let inside := indent = 0 || column < indent
    let largest := max largest column
    if c = ' ' && inside then emptyLines indent (column + 1) largest t
    else if c = '\t' && inside then .error .tabIndentation
    else if isBreak c then do
      let (ends, largest, column, rest) ← emptyLines indent 0 largest t
      return (breakText c ++ ends, largest, column, rest)
    else .ok ([], largest, column, c :: t)

/-- The end of the line at the front of a text, and what follows; nothing at the end of the
text. -/
def lineEnd (t : Text) : Text × Text :=
  (afterBreak? t).getD ([], t)

/-- The lines of a block, of which there are at most `steps`.  `before` is the end of the line
before, `ends` are the ends of the empty lines after it, and `blank` says whether that line begins
with a blank. -/
def blockLines (literal : Bool) (chomping : Chomping) (indent : Nat) : (steps : Nat) →
    (before ends : Text) → (blank : Bool) → (column : Nat) → Text → Except Error (Text × Text)
  | 0, _, _, _, _, t => .ok ([], t)
  | steps + 1, before, ends, blank, column, t =>
    if column = indent && !t.isEmpty then do
      let thisBlank := t.head?.any isBlank
      let joint :=
        if !literal && before.head? == some '\n' && !blank && !thisBlank then
          (if ends.isEmpty then [' '] else ends)
        else before ++ ends
      let line := t.takeWhile fun c => !isBreak c
      let (before, rest) := lineEnd (t.dropWhile fun c => !isBreak c)
      let column := if before.isEmpty then column + line.length else 0
      let (ends, _, column, rest) ← emptyLines indent column 0 rest
      let (more, rest) ← blockLines literal chomping indent steps before ends thisBlank column rest
      return (joint ++ line ++ more, rest)
    else
      let tail := match chomping with
        | .strip => []
        | .clip => before
        | .keep => before ++ ends
      .ok (tail, t)

/-- The block after `|` or `>`; `indent` is the indentation of what it is part of. -/
def blockScalar (literal : Bool) (indent : Int) (t : Text) : Except Error (Text × Text) := do
  let (chomping, n, t) ← blockHeader t
  let given := if n = 0 then 0 else (max indent 0).toNat + n
  let (ends, largest, column, rest) ← emptyLines given 0 0 t
  let own := if given = 0 then max (max largest (indent + 1).toNat) 1 else given
  blockLines literal chomping own (t.length + 1) [] ends false column rest

end Tabular.Yaml
