import Tabular.Operator

/-! # Conditions and clauses

A condition compares the cell of a column with an operand.  A clause is a list of groups that must
all hold; a group is one condition, or several of which one must hold.  In place of a condition
there may be a fragment of text in which no operator was found, which excludes nothing.

A fragment of text is read as a condition by looking for the tokens of the operators, longer tokens
first.  A symbol counts wherever it stands; a keyword must have white space before it and must not
run on into a longer word.  Of each token only the first place where it counts is looked at, and a
token at the very front is passed over.  What stands before the token is the column, what follows it
is the operand, without the white space around them and without one quotation mark at either end of
the operand. -/

namespace Tabular

open Unicode

/-- A comparison of the cell of a column with an operand. -/
structure Condition where
  column : Text
  operator : Operator
  operand : Text
  deriving DecidableEq, Repr

/-- One unit of a clause.  `none` stands for a fragment without an operator. -/
inductive Group where
  /-- The condition must hold. -/
  | all (member : Option Condition)
  /-- At least one of the conditions must hold. -/
  | any (members : List (Option Condition))
  deriving DecidableEq, Repr

/-- Groups that must all hold. -/
abbrev Clause := List Group

namespace Group

/-- The members of a group. -/
def members : Group → List (Option Condition)
  | all member => [member]
  | any members => members

end Group

/-! ### Reading -/

namespace Operator

/-- The order in which the tokens are looked for: longer tokens first, so that `>=` is not taken
for `>`. -/
def scanOrder : List Operator :=
  [startsWith, isNotNull, endsWith, notLike, isNull, notIn, like, ne, ge, le, isIn, eq, gt, lt]

/-- A character that makes a word longer. -/
def isWordChar (c : Char) : Bool :=
  isAlphanumeric c || c == '_'

/-- What follows the token of an operator that counts at the front of a text; `last` is the
character before the text. -/
def afterToken? (op : Operator) (last : Option Char) (t : Text) : Option Text :=
  match Text.afterLetters? op.token t with
  | none => none
  | some rest =>
    if op.isKeyword && !(last.any isWhiteSpace && !rest.head?.any isWordChar) then none
    else some rest

/-- The texts before and after the first place where the token of an operator counts; `last` is
the character before the text. -/
def cutFrom? (op : Operator) (last : Option Char) : Text → Option (Text × Text)
  | [] => none
  | c :: t =>
    match op.afterToken? last (c :: t) with
    | some rest => some ([], rest)
    | none => (op.cutFrom? (some c) t).map fun (front, rest) => (c :: front, rest)

/-- The texts before and after the first place where the token of an operator counts. -/
def cut? (op : Operator) (t : Text) : Option (Text × Text) :=
  op.cutFrom? none t

end Operator

namespace Condition

/-- A quotation mark, single or double. -/
def isQuote (c : Char) : Bool :=
  c == '\'' || c == '"'

/-- A text without one quotation mark at its front, if there is one. -/
def unquoteFront : Text → Text
  | [] => []
  | c :: t => if isQuote c then t else c :: t

/-- A text without one quotation mark at either end, where there is one. -/
def unquote (t : Text) : Text :=
  (unquoteFront (unquoteFront t).reverse).reverse

/-- The condition that a cut at the token of an operator gives, unless it is at the front. -/
def ofCut? (op : Operator) : Text × Text → Option Condition
  | ([], _) => none
  | (front, rest) => some ⟨Text.trim front, op, unquote (Text.trim rest)⟩

/-- The condition that a fragment of text says. -/
def parse? (fragment : Text) : Option Condition :=
  let t := Text.trim fragment
  Operator.scanOrder.findSome? fun op => (op.cut? t).bind (ofCut? op)

end Condition

end Tabular
