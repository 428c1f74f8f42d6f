import Tabular.Number.Binary64
import Tabular.Text
import Tabular.Unicode.LowerCase

/-! # Operators

The fourteen comparisons of the clause language and their tokens.  The tokens that are words are
keywords; the others are symbols.  `Operator.ofText?` reads a token in any letter case with any
white space between its words, so every operator is read from its own token
(`ofText?_token`).

`Operator.holds` compares a cell with an operand.  Text is compared in lower case.  Numbers are
read leniently: thousands commas and dollar signs are dropped, the literal at the front counts and
what follows it does not, and text without a literal at the front counts as zero, so that any two
texts can be compared as numbers. -/

namespace Tabular

/-- A comparison between a cell and an operand. -/
inductive Operator where
  /-- The same text. -/
  | eq
  /-- Another text. -/
  | ne
  /-- A larger number. -/
  | gt
  /-- A smaller number. -/
  | lt
  /-- A number at least as large. -/
  | ge
  /-- A number at most as large. -/
  | le
  /-- The operand is a part of the cell. -/
  | like
  /-- The operand is no part of the cell. -/
  | notLike
  /-- The cell is among the items of the operand. -/
  | isIn
  /-- The cell is not among the items of the operand. -/
  | notIn
  /-- The cell begins with the operand. -/
  | startsWith
  /-- The cell ends with the operand. -/
  | endsWith
  /-- The cell is blank. -/
  | isNull
  /-- The cell is not blank. -/
  | isNotNull
  deriving DecidableEq, Repr, Inhabited

namespace Operator

/-- All operators, in the order in which they are listed to users. -/
def all : List Operator :=
  [eq, ne, gt, lt, ge, le, like, notLike, isIn, notIn, startsWith, endsWith, isNull, isNotNull]

theorem mem_all (op : Operator) : op ∈ all := by
  cases op <;> decide

/-- The token of an operator in a clause. -/
def token : Operator → Text
  | eq => "=".toList
  | ne => "!=".toList
  | gt => ">".toList
  | lt => "<".toList
  | ge => ">=".toList
  | le => "<=".toList
  | like => "LIKE".toList
  | notLike => "NOT LIKE".toList
  | isIn => "IN".toList
  | notIn => "NOT IN".toList
  | startsWith => "STARTS WITH".toList
  | endsWith => "ENDS WITH".toList
  | isNull => "IS NULL".toList
  | isNotNull => "IS NOT NULL".toList

/-- Whether an operator compares the cell with an operand. -/
def takesOperand : Operator → Bool
  | isNull | isNotNull => false
  | _ => true

/-- Whether an operator compares numbers. -/
def isNumeric : Operator → Bool
  | gt | lt | ge | le => true
  | _ => false

/-- Whether the token of an operator is made of words. -/
def isKeyword (op : Operator) : Bool :=
  op.token.head?.any Char.isAlpha

/-- The operator that a text names, in any letter case and with any white space around and between
the words. -/
def ofText? (t : Text) : Option Operator :=
  let name := Text.joinWith [' '] (Text.words t)
  all.find? fun op => Text.sameLetters op.token name

/-- What is said about a text that names no operator. -/
def unknownMessage (t : Text) : String :=
  s!"invalid operator: {String.ofList t}"

theorem ofText?_token (op : Operator) : ofText? op.token = some op := by
  cases op <;> decide +kernel

theorem token_ne_nil (op : Operator) : op.token ≠ [] := by
  cases op <;> decide

end Operator

/-! ### Comparing -/

open Unicode

/-- The number that a text counts as. -/
def Text.number (t : Text) : Number.Binary64 :=
  (Number.valueOfFront? (t.filter fun c => c ≠ ',' && c ≠ '$')).getD .zero

/-- Whether a text has `part` in it, whatever their letter case. -/
def Text.mentions (t part : Text) : Bool :=
  Text.hasPart (lowerCase part) (lowerCase t)

/-- The items of a list operand: the pieces between commas, without the white space around
them. -/
def Text.items (operand : Text) : List Text :=
  (Text.cutAt ',' operand).map Text.trim

namespace Operator

/-- Whether a cell stands in the relation of an operator to an operand. -/
def holds (op : Operator) (cell operand : Text) : Bool :=
  match op with
  | eq => sameIgnoringCase cell operand
  | ne => !sameIgnoringCase cell operand
  | gt => decide (operand.number.toInt < cell.number.toInt)
  | lt => decide (cell.number.toInt < operand.number.toInt)
  | ge => decide (operand.number.toInt ≤ cell.number.toInt)
  | le => decide (cell.number.toInt ≤ operand.number.toInt)
  | like => Text.mentions cell operand
  | notLike => !Text.mentions cell operand
  | isIn => (Text.items operand).any (sameIgnoringCase · cell)
  | notIn => !(Text.items operand).any (sameIgnoringCase · cell)
  | startsWith => (lowerCase operand).isPrefixOf (lowerCase cell)
  | endsWith => (lowerCase operand).isSuffixOf (lowerCase cell)
  | isNull => Text.isBlank cell
  | isNotNull => !Text.isBlank cell

end Operator

/-! ### Joining conditions -/

/-- How a condition is joined to the one before it. -/
inductive Logic where
  | and
  | or
  deriving DecidableEq, Repr, Inhabited

namespace Logic

/-- The keyword of a join. -/
def token : Logic → Text
  | and => "AND".toList
  | or => "OR".toList

/-- The join that a text names, in any letter case and with white space around it. -/
def ofText? (t : Text) : Option Logic :=
  [and, or].find? fun l => Text.sameLetters l.token (Text.trim t)

/-- What is said about a text that names no join. -/
def unknownMessage (t : Text) : String :=
  s!"invalid logic: {String.ofList t}"

theorem ofText?_token (l : Logic) : ofText? l.token = some l := by
  cases l <;> decide +kernel

end Logic

end Tabular
