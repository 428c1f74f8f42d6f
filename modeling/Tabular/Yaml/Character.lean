import Tabular.Text

/-! # Characters of YAML, and what can be wrong with it -/

namespace Tabular.Yaml

/-! ### Characters -/

/-- A space or a tab. -/
def isBlank (c : Char) : Bool :=
  c == ' ' || c == '\t'

/-- A character that ends a line. -/
def isBreak (c : Char) : Bool :=
  c == '\n' || c == '\r' || c == '\u0085' || c == '\u2028' || c == '\u2029'

/-- A character between words. -/
def isGap (c : Char) : Bool :=
  isBlank c || isBreak c

/-- Whether a text ends here or goes on with a character between words. -/
def startsGap (t : Text) : Bool :=
  t.head?.all isGap

/-- A letter of the names of anchors, handles and directives. -/
def isNameChar (c : Char) : Bool :=
  c.isAlphanum || c == '_' || c == '-'

/-- A bracket of a collection in flow style. -/
def isBracket (c : Char) : Bool :=
  c == '[' || c == ']' || c == '\x7b' || c == '\x7d'

/-- A character that may stand in a document at all; controls may not. -/
def isAllowed (c : Char) : Bool :=
  c == '\t' || c == '\n' || c == '\r' || c == '\u0085' ||
  (0x20 ≤ c.toNat && c.toNat ≤ 0x7E) ||
  (0xA0 ≤ c.toNat && c.toNat ≤ 0xFFFD) || 0x10000 ≤ c.toNat

/-- The mark that some writers put in front of a text. -/
def byteOrderMark : Char := '\uFEFF'

/-- The end of a line as it counts in a scalar. -/
def breakText (c : Char) : Text :=
  if c = '\u2028' || c = '\u2029' then [c] else ['\n']

/-- The end of a line at the front of a text, as it counts in a scalar, and what follows it.  A
carriage return and the line feed after it are one end. -/
def afterBreak? : Text → Option (Text × Text)
  | '\r' :: '\n' :: t => some (['\n'], t)
  | c :: t => if isBreak c then some (breakText c, t) else none
  | [] => none

/-- Whether three dashes or three dots stand at the front of a text as a word of their own. -/
def startsMark (dot : Char) : Text → Bool
  | a :: b :: c :: t => a == dot && b == dot && c == dot && startsGap t
  | _ => false

/-- Whether the mark of the beginning or the end of a document stands at the front of a text. -/
def startsDocumentMark (t : Text) : Bool :=
  startsMark '-' t || startsMark '.' t

/-! ### Errors -/

/-- Why a text is not YAML, or not the YAML that is asked for. -/
inductive Error where
  | control
  | keyWithoutColon
  | misplacedEntry
  | misplacedKey
  | misplacedValue
  | noToken
  | directive
  | anchorName
  | tag
  | blockHeader
  | tabIndentation
  | endInQuotes
  | markInQuotes
  | unknownEscape
  | escapeDigits
  | escapeValue
  | colonInFlow
  | noContent
  | noEntry
  | noKey
  | noSeparator
  | noDocumentStart
  | repeatedDirective
  | version
  | unknownHandle
  | unknownAnchor
  | documents
  | depth
  | type (expected : String)
  | invalid (expected : String)
  | duplicate (field : String)
  deriving DecidableEq, Repr

/-- What is said about the text. -/
def Error.message : Error → String
  | control => "control characters are not allowed"
  | keyWithoutColon => "could not find expected ':'"
  | misplacedEntry => "block sequence entries are not allowed in this context"
  | misplacedKey => "mapping keys are not allowed in this context"
  | misplacedValue => "mapping values are not allowed in this context"
  | noToken => "found character that cannot start any token"
  | directive => "found an unknown or malformed directive"
  | anchorName => "did not find expected alphabetic or numeric character"
  | tag => "found a malformed tag"
  | blockHeader => "did not find expected comment or line break"
  | tabIndentation => "found a tab character where an indentation space is expected"
  | endInQuotes => "found unexpected end of stream"
  | markInQuotes => "found unexpected document indicator"
  | unknownEscape => "found unknown escape character"
  | escapeDigits => "did not find expected hexadecimal number"
  | escapeValue => "found invalid Unicode character escape code"
  | colonInFlow => "found unexpected ':'"
  | noContent => "did not find expected node content"
  | noEntry => "did not find expected '-' indicator"
  | noKey => "did not find expected key"
  | noSeparator => "did not find expected ',' or closing bracket"
  | noDocumentStart => "did not find expected <document start>"
  | repeatedDirective => "found duplicate directive"
  | version => "found incompatible YAML document"
  | unknownHandle => "found undefined tag handle"
  | unknownAnchor => "unknown anchor"
  | documents => "deserializing from YAML containing more than one document is not supported"
  | depth => "recursion limit exceeded"
  | type expected => "invalid type: expected " ++ expected
  | invalid expected => "invalid value: expected " ++ expected
  | duplicate field => "duplicate entry " ++ field

end Tabular.Yaml
