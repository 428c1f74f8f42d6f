import Tabular.Yaml.Scalar
import Tabular.Yaml.Tag

/-! # Tokens of YAML

The structure that indentation gives a text is written out as tokens, so that a document can be
read from its tokens without looking at columns.

A scanner keeps the columns at which lists and mappings in block style began, and for each
bracket that is open the place where a key may have begun.  Only when the colon comes is it known
that it was a key, and then the tokens that say so are put in front of it.  A key of this kind
ends on the line on which it begins and is not longer than 1024 characters. -/

namespace Tabular.Yaml

/-! ### Tokens -/

/-- A piece of a text. -/
inductive Token where
  /-- The end of the text. -/
  | streamEnd
  /-- The version that a document is written in. -/
  | version (major minor : Nat)
  /-- What a handle in front of tags stands for. -/
  | handle (handle stem : Text)
  /-- Three dashes. -/
  | documentStart
  /-- Three dots. -/
  | documentEnd
  /-- The first dash of a list in block style. -/
  | listStart
  /-- The first key of a mapping in block style. -/
  | mapStart
  /-- The end of a list or a mapping in block style. -/
  | blockEnd
  /-- `[`. -/
  | flowListStart
  /-- `]`. -/
  | flowListEnd
  /-- An opening brace. -/
  | flowMapStart
  /-- A closing brace. -/
  | flowMapEnd
  /-- A dash in front of an item in block style. -/
  | item
  /-- A comma in flow style. -/
  | comma
  /-- What follows is a key. -/
  | key
  /-- What follows is the value of a key. -/
  | value
  /-- A node that stands elsewhere too. -/
  | alias (name : Text)
  /-- The name of the node that follows. -/
  | anchor (name : Text)
  /-- The tag of the node that follows. -/
  | tag (handle rest : Text)
  /-- A scalar, and whether it is written without quotation marks and in no block. -/
  | scalar (plain : Bool) (text : Text)
  deriving DecidableEq, Repr

/-! ### Places in a text -/

/-- What is left of a text, with the number of characters, lines and columns in front of it. -/
structure Cursor where
  rest : Text
  index : Nat
  line : Nat
  column : Nat

namespace Cursor

/-- After one character. -/
def next (c : Cursor) : Cursor :=
  match c.rest with
  | [] => c
  | x :: rest =>
    if isBreak x && !(x == '\r' && rest.head? == some '\n') then
      ⟨rest, c.index + 1, c.line + 1, 0⟩
    else ⟨rest, c.index + 1, c.line, c.column + 1⟩

/-- After so many characters. -/
def advance : Nat → Cursor → Cursor
  | 0, c => c
  | n + 1, c => advance n c.next

/-- At the place where only `rest` is left. -/
def goTo (c : Cursor) (rest : Text) : Cursor :=
  c.advance (c.rest.length - rest.length)

/-- Passes over blanks, comments and ends of lines.  Tabs are passed over where they cannot be
taken for indentation.  Also tells whether the end of a line was among them.  There are at most
`steps` characters. -/
def skipGaps (tabs : Bool → Bool) : (steps : Nat) → (broken : Bool) → Cursor → Cursor × Bool
  | 0, broken, c => (c, broken)
  | steps + 1, broken, c =>
    match c.rest with
    | [] => (c, broken)
    | x :: _ =>
      if x = ' ' || (x = '\t' && tabs broken) || (x = byteOrderMark && c.column = 0) then
        skipGaps tabs steps broken c.next
      else if x = '#' then
        skipGaps tabs steps broken (c.goTo (c.rest.dropWhile fun y => !isBreak y))
      else if isBreak x then
        skipGaps tabs steps true (c.goTo ((afterBreak? c.rest).elim [] (·.2)))
      else (c, broken)

end Cursor

/-! ### The scanner -/

/-- A place where a key may have begun. -/
structure KeyStart where
  /-- The number of tokens in front of it. -/
  token : Nat
  /-- Whether nothing but a key can stand there. -/
  required : Bool
  index : Nat
  line : Nat
  column : Nat

/-- What has been read of a text. -/
structure Scanner where
  cursor : Cursor
  tokens : Array Token
  /-- The column of the list or mapping in block style that is open. -/
  indent : Int
  /-- The columns of those around it. -/
  indents : List Int
  /-- Whether a key may begin here. -/
  keyAllowed : Bool
  /-- Where a key may have begun in front of all brackets and in each open bracket, the inmost
  first. -/
  keys : List (Option KeyStart)

namespace Scanner

/-- Nothing read of a text. -/
def start (t : Text) : Scanner :=
  ⟨⟨t, 0, 0, 0⟩, #[], -1, [], true, [none]⟩

/-- Whether a bracket is open. -/
def inFlow (s : Scanner) : Bool :=
  1 < s.keys.length

/-- With one more token. -/
def push (s : Scanner) (t : Token) : Scanner :=
  { s with tokens := s.tokens.push t }

/-- With tokens put in front of the one with number `n`. -/
def insert (s : Scanner) (n : Nat) (ts : List Token) : Scanner :=
  { s with
    tokens := s.tokens.extract 0 n ++ ts.toArray ++ s.tokens.extract n s.tokens.size }

/-- After so many characters. -/
def skip (s : Scanner) (n : Nat) : Scanner :=
  { s with cursor := s.cursor.advance n }

/-- At the place where only `rest` is left. -/
def goTo (s : Scanner) (rest : Text) : Scanner :=
  { s with cursor := s.cursor.goTo rest }

/-- Says whether a key may begin here. -/
def allowKey (s : Scanner) (allowed : Bool) : Scanner :=
  { s with keyAllowed := allowed }

/-! #### Keys -/

/-- The longest key on a line. -/
def longestKey : Nat := 1024

/-- Whether a key that began at a place can no longer end. -/
def isStale (c : Cursor) (k : KeyStart) : Bool :=
  k.line < c.line || k.index + longestKey < c.index

/-- Forgets the keys that can no longer end. -/
def dropStale (s : Scanner) : Except Error Scanner :=
  let stale := isStale s.cursor
  if s.keys.any fun k => k.any fun k => k.required && stale k then .error .keyWithoutColon
  else .ok { s with keys := s.keys.map fun k => k.filter fun k => !stale k }

/-- Forgets the key that may have begun in the inmost bracket. -/
def dropKey (s : Scanner) : Except Error Scanner :=
  match s.keys with
  | [] => .ok s
  | k :: rest =>
    if k.any (·.required) then .error .keyWithoutColon else .ok { s with keys := none :: rest }

/-- Notes that a key may begin here. -/
def saveKey (s : Scanner) : Except Error Scanner := do
  if !s.keyAllowed then return s
  let required := !s.inFlow && s.indent == (s.cursor.column : Int)
  let s ← s.dropKey
  let k : KeyStart :=
    ⟨s.tokens.size, required, s.cursor.index, s.cursor.line, s.cursor.column⟩
  return { s with keys := some k :: s.keys.tail }

/-! #### Indentation -/

/-- Opens a list or a mapping at a column, unless one is open there or a bracket is.  The token
for it goes in front of the one with number `n`. -/
def rollIndent (s : Scanner) (column n : Nat) (t : Token) : Scanner :=
  if !s.inFlow && s.indent < column then
    { s.insert n [t] with indent := column, indents := s.indent :: s.indents }
  else s

/-- Closes the lists and mappings that began right of a column. -/
def unrollFrom (column : Int) : List Int → Scanner → Scanner
  | [], s => s
  | outer :: rest, s =>
    if column < s.indent then
      unrollFrom column rest { s.push .blockEnd with indent := outer, indents := rest }
    else s

/-- Closes the lists and mappings that began right of a column, unless a bracket is open. -/
def unrollIndent (s : Scanner) (column : Int) : Scanner :=
  if s.inFlow then s else unrollFrom column s.indents s

/-! #### Tokens -/

/-- The end of the text. -/
def fetchEnd (s : Scanner) : Except Error Scanner := do
  let s ← (s.unrollIndent (-1)).dropKey
  return s.push .streamEnd

/-- A directive after a percent sign. -/
def fetchDirective (s : Scanner) : Except Error Scanner := do
  let s ← (s.unrollIndent (-1)).dropKey
  let (directive, rest) ← scanDirective (s.cursor.rest.drop 1)
  match afterLine? (afterComment rest) with
  | none => throw .directive
  | some rest =>
    let token := match directive with
      | .version major minor => Token.version major minor
      | .handle handle stem => Token.handle handle stem
    return ((s.allowKey false).goTo rest).push token

/-- The mark of the beginning or the end of a document. -/
def fetchMark (s : Scanner) (t : Token) : Except Error Scanner := do
  let s ← (s.unrollIndent (-1)).dropKey
  return ((s.allowKey false).skip 3).push t

/-- An opening bracket. -/
def fetchOpening (s : Scanner) (t : Token) : Except Error Scanner := do
  let s ← s.saveKey
  return ({ s.allowKey true with keys := none :: s.keys }.skip 1).push t

/-- A closing bracket. -/
def fetchClosing (s : Scanner) (t : Token) : Except Error Scanner := do
  let s ← s.dropKey
  let keys := if s.inFlow then s.keys.tail else s.keys
  return ({ s.allowKey false with keys }.skip 1).push t

/-- A comma between brackets. -/
def fetchComma (s : Scanner) : Except Error Scanner := do
  let s ← s.dropKey
  return ((s.allowKey true).skip 1).push .comma

/-- A dash in front of an item. -/
def fetchItem (s : Scanner) : Except Error Scanner := do
  if !s.inFlow && !s.keyAllowed then throw .misplacedEntry
  let s ← (s.rollIndent s.cursor.column s.tokens.size .listStart).dropKey
  return ((s.allowKey true).skip 1).push .item

/-- A question mark in front of a key. -/
def fetchKey (s : Scanner) : Except Error Scanner := do
  if !s.inFlow && !s.keyAllowed then throw .misplacedKey
  let s ← (s.rollIndent s.cursor.column s.tokens.size .mapStart).dropKey
  return ((s.allowKey !s.inFlow).skip 1).push .key

/-- A colon in front of a value.  If a key may have begun before it, it has. -/
def fetchValue (s : Scanner) : Except Error Scanner := do
  match s.keys with
  | some k :: rest =>
    let s := (s.insert k.token [.key]).rollIndent k.column k.token .mapStart
    return ({ s.allowKey false with keys := none :: rest }.skip 1).push .value
  | _ =>
    if !s.inFlow && !s.keyAllowed then throw .misplacedValue
    let s := s.rollIndent s.cursor.column s.tokens.size .mapStart
    return ((s.allowKey !s.inFlow).skip 1).push .value

/-- The name after `&` or `*`. -/
def fetchAnchor (s : Scanner) (t : Text → Token) : Except Error Scanner := do
  let s ← s.saveKey
  let (name, rest) ← anchorName (s.cursor.rest.drop 1)
  return ((s.allowKey false).goTo rest).push (t name)

/-- A tag. -/
def fetchTag (s : Scanner) : Except Error Scanner := do
  let s ← s.saveKey
  let ((handle, own), rest) ← scanTag s.cursor.rest
  if !startsGap rest && !(s.inFlow && rest.head? == some ',') then throw .tag
  return ((s.allowKey false).goTo rest).push (.tag handle own)

/-- A block. -/
def fetchBlock (s : Scanner) (literal : Bool) : Except Error Scanner := do
  let s ← s.dropKey
  let (t, rest) ← blockScalar literal s.indent (s.cursor.rest.drop 1)
  return ((s.allowKey true).goTo rest).push (.scalar false t)

/-- A scalar between quotation marks. -/
def fetchQuoted (s : Scanner) (quote : Char) : Except Error Scanner := do
  let s ← s.saveKey
  let (t, rest) ← quotedScalar quote s.cursor.column (s.cursor.rest.drop 1)
  return ((s.allowKey false).goTo rest).push (.scalar false t)

/-- A scalar without quotation marks.  Behind the end of a line a key may begin. -/
def fetchPlain (s : Scanner) : Except Error Scanner := do
  let s ← s.saveKey
  let (t, rest, lines) ← plainScalar s.inFlow (s.indent + 1) s.cursor.column s.cursor.rest
  return ((s.allowKey lines).goTo rest).push (.scalar true t)

/-- Whether a scalar without quotation marks may begin with a character. -/
def beginsPlain (inFlow : Bool) (c : Char) (t : Text) : Bool :=
  if c = '-' then !t.head?.any isBlank
  else if c = '?' || c = ':' then !inFlow && !startsGap t
  else !isGap c && !",[]#&*!|>'\"%@".toList.contains c && !isBracket c && c ≠ '\x60'

/-- The next token of a text that does not begin with a gap. -/
def fetch (s : Scanner) (c : Char) (t : Text) : Except Error Scanner :=
  let column := s.cursor.column
  let rest := s.cursor.rest
  if column = 0 && c = '%' then s.fetchDirective
  else if column = 0 && startsMark '-' rest then s.fetchMark .documentStart
  else if column = 0 && startsMark '.' rest then s.fetchMark .documentEnd
  else if c = '[' then s.fetchOpening .flowListStart
  else if c = '\x7b' then s.fetchOpening .flowMapStart
  else if c = ']' then s.fetchClosing .flowListEnd
  else if c = '\x7d' then s.fetchClosing .flowMapEnd
  else if c = ',' then s.fetchComma
  else if c = '-' && startsGap t then s.fetchItem
  else if c = '?' && (s.inFlow || startsGap t) then s.fetchKey
  else if c = ':' && (s.inFlow || startsGap t) then s.fetchValue
  else if c = '*' then s.fetchAnchor .alias
  else if c = '&' then s.fetchAnchor .anchor
  else if c = '!' then s.fetchTag
  else if c = '|' && !s.inFlow then s.fetchBlock true
  else if c = '>' && !s.inFlow then s.fetchBlock false
  else if c = '\'' || c = '"' then s.fetchQuoted c
  else if beginsPlain s.inFlow c t then s.fetchPlain
  else .error .noToken

/-- Passes over the gap in front of the next token and makes up for the indentation. -/
def approach (s : Scanner) : Except Error Scanner := do
  let (cursor, broken) :=
    s.cursor.skipGaps (fun broken => s.inFlow || !(s.keyAllowed || broken)) (s.cursor.rest.length + 1)
      false
  let s := { s with cursor, keyAllowed := s.keyAllowed || (broken && !s.inFlow) }
  let s ← s.dropStale
  return s.unrollIndent s.cursor.column

/-- The tokens of a text, of which there are at most `steps` besides the end. -/
def scan : (steps : Nat) → Scanner → Except Error (List Token)
  | 0, s => return (← s.fetchEnd).tokens.toList
  | steps + 1, s => do
    let s ← s.approach
    match s.cursor.rest with
    | [] => return (← s.fetchEnd).tokens.toList
    | c :: t => scan steps (← s.fetch c t)

end Scanner

/-- The tokens of a text. -/
def tokens (t : Text) : Except Error (List Token) :=
  if t.all isAllowed then (Scanner.start t).scan (t.length + 1) else .error .control

end Tabular.Yaml
