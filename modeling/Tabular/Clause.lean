import Tabular.Condition
import Tabular.Row

/-! # Clauses

The text of a clause is blank, and then keeps every row, or begins with the keyword `WHERE`.  Its
body is cut at `AND` first and every part at `OR` next, so `A AND B OR C` says that `A` holds and one
of `B` and `C`.  Parentheses have no meaning.

A text is cut at a keyword that has white space on both sides.  The white space belongs to the
separator, so it cannot open the next one: in `A AND AND B` the second keyword is part of the text
after the first. -/

namespace Tabular

namespace Clause

/-! ### Cutting at a keyword -/

/-- A list of parts with a stretch put in front of the first part. -/
def putFront (s : Text) : List (List Text) → List (List Text)
  | [] => [[s]]
  | part :: parts => (s :: part) :: parts

/-- Cuts a list of stretches, alternately of white space and of other characters, at the stretches
that are the keyword with white space on both sides. -/
def cutStretches (keyword : Text) : List Text → List (List Text)
  | [] => [[]]
  | s :: word :: s' :: rest =>
    if Text.isBlank s && Text.sameLetters keyword word then [] :: cutStretches keyword rest
    else putFront s (cutStretches keyword (word :: s' :: rest))
  | s :: rest => putFront s (cutStretches keyword rest)

/-- The parts of a text between the separators made of a keyword, in any letter case, and the
white space on both sides of it. -/
def cutAtKeyword (keyword t : Text) : List Text :=
  (cutStretches keyword (Text.stretches t)).map List.flatten

/-! ### Reading -/

/-- The group that a part between two `AND`s says. -/
def parseGroup (part : Text) : Group :=
  match cutAtKeyword Logic.or.token part with
  | first :: second :: rest => .any ((first :: second :: rest).map Condition.parse?)
  | _ => .all (Condition.parse? part)

/-- The clause that a body says. -/
def parse (body : Text) : Clause :=
  (cutAtKeyword Logic.and.token body).map parseGroup

end Clause

/-! ### What a clause says of a row -/

/-- Whether a condition holds of a row; on a column that the row does not have, none does. -/
def Condition.holds (c : Condition) (row : Row) : Bool :=
  match row.get? c.column with
  | none => false
  | some cell => c.operator.holds cell c.operand

theorem Condition.holds_of_get? {row : Row} {column cell : Text}
    (found : row.get? column = some cell) (op : Operator) (operand : Text) :
    (Condition.mk column op operand).holds row = op.holds cell operand := by
  rw [holds, found]

theorem Condition.holds_of_missing {row : Row} {column : Text} (missing : row.get? column = none)
    (op : Operator) (operand : Text) : (Condition.mk column op operand).holds row = false := by
  rw [holds, missing]

/-- Whether a member of a group holds of a row; a fragment without an operator does. -/
def Group.memberHolds (row : Row) : Option Condition → Bool
  | none => true
  | some c => c.holds row

/-- Whether a group holds of a row. -/
def Group.holds (row : Row) : Group → Bool
  | .all member => memberHolds row member
  | .any members => members.any (memberHolds row)

/-- Whether all groups of a clause hold of a row. -/
def Clause.holds (clause : Clause) (row : Row) : Bool :=
  clause.all (Group.holds row)

theorem Clause.holds_append (a b : Clause) (row : Row) :
    Clause.holds (a ++ b) row = (Clause.holds a row && Clause.holds b row) :=
  List.all_append

/-! ### Filtering -/

/-- Why rows could not be filtered. -/
inductive FilterError where
  /-- The text of the clause is not blank and is not `WHERE` followed by a body. -/
  | missingWhere
  deriving DecidableEq, Repr

/-- What is said about a filter that failed. -/
def FilterError.message : FilterError → String
  | missingWhere => "Invalid SQL: WHERE clause required"

namespace Clause

/-- The keyword in front of the body of a clause. -/
def whereToken : Text :=
  "WHERE".toList

/-- The body of a clause text: what follows the keyword and at least one white space. -/
def body? (t : Text) : Option Text :=
  match Text.afterLetters? whereToken t with
  | none => none
  | some rest =>
    if rest.head?.any Unicode.isWhiteSpace && !Text.isBlank rest then some (Text.trimStart rest)
    else none

/-- The rows that a clause text keeps. -/
def selects (t : Text) : Except FilterError (Row → Bool) :=
  if Text.isBlank t then .ok fun _ => true
  else
    match body? (Text.trim t) with
    | none => .error .missingWhere
    | some body => .ok (Clause.holds (Clause.parse body))

/-- The rows that pass a clause text, in their order. -/
def filter (rows : List Row) (t : Text) : Except FilterError (List Row) :=
  (selects t).map fun keeps => rows.filter keeps

end Clause

end Tabular
