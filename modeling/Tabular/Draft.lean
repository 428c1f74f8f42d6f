import Tabular.Clause
import Tabular.Number.Literal

/-! # Drafts

A draft is a condition as it is edited: its operand is the value that was typed in, and a join says
how it goes with the draft before it.  A list of drafts is written as the text of a clause
(`clauseText`) and is a clause by itself (`clauseOf`).  The clause language has no escapes, so not
every draft can be written; `refusal?` says which can not. -/

namespace Tabular

/-- A condition as it is edited, with the number that it keeps as long as it lives. -/
structure Draft where
  id : Nat
  column : Text
  operator : Operator
  value : Text
  logic : Logic
  deriving DecidableEq, Repr

/-! ### Writing a draft -/

/-- The operand as it is written after an operator, if the operator takes one: a number after a
comparison of numbers as it is, anything else between quotation marks. -/
def Operator.operandText? (op : Operator) (value : Text) : Option Text :=
  if !op.takesOperand then none
  else if op.isNumeric && decide (Text.trim value = value) && Number.isLiteral value then some value
  else some ('\'' :: value ++ ['\''])

namespace Draft

/-- The draft as it is written in a clause. -/
def fragment (d : Draft) : Text :=
  d.column ++ ' ' :: d.operator.token ++
    (d.operator.operandText? d.value).elim [] (' ' :: ·)

/-- The condition that the draft stands for. -/
def condition (d : Draft) : Condition where
  column := d.column
  operator := d.operator
  operand := if d.operator.takesOperand then d.value else []

/-! ### Drafts that cannot be written -/

/-- Why a draft is refused. -/
inductive Refusal where
  /-- The column has no name. -/
  | blankColumn
  /-- The written draft is read as something else. -/
  | inexpressible (fragment : Text)
  deriving DecidableEq, Repr

/-- Whether the written draft is read as the condition that it stands for. -/
def readsBack (d : Draft) : Bool :=
  Clause.parse d.fragment == [.all (some d.condition)]

/-- Why a draft cannot be kept, if it cannot. -/
def refusal? (d : Draft) : Option Refusal :=
  if Text.isBlank d.column then some .blankColumn
  else if d.readsBack then none
  else some (.inexpressible d.fragment)

theorem refusal?_eq_none_iff (d : Draft) :
    d.refusal? = none ↔ Text.isBlank d.column = false ∧ d.readsBack = true := by
  unfold refusal?
  cases Text.isBlank d.column <;> cases d.readsBack <;> simp

/-! ### Lists of drafts -/

/-- The drafts after the first one, each behind the keyword that joins it. -/
def joinedText : List Draft → Text
  | [] => []
  | d :: ds => ' ' :: d.logic.token ++ ' ' :: d.fragment ++ joinedText ds

/-- The clause text of a list of drafts; empty if there are none. -/
def clauseText : List Draft → Text
  | [] => []
  | d :: ds => "WHERE ".toList ++ d.fragment ++ joinedText ds

theorem clauseText_cons (d : Draft) (ds : List Draft) :
    clauseText (d :: ds) = "WHERE ".toList ++ d.fragment ++ joinedText ds := rfl

/-- The list cut in front of every draft that is joined by `AND`. -/
def blocks : List Draft → List (List Draft)
  | [] => []
  | d :: ds =>
    match blocks ds with
    | block :: rest =>
      if ds.head?.any (·.logic = .or) then (d :: block) :: rest else [d] :: block :: rest
    | [] => [[d]]

/-- The group of some conditions: one alone must hold, of several one must. -/
def groupOf : List Condition → Group
  | [c] => .all (some c)
  | cs => .any (cs.map some)

/-- The clause of a list of drafts. -/
def clauseOf (ds : List Draft) : Clause :=
  (blocks ds).map fun block => groupOf (block.map condition)

end Draft

end Tabular
