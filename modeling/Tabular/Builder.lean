import Tabular.Clause
import Tabular.Draft

/-! # The builder

A builder holds the drafts on the columns of one dataset.  Every draft that it holds can be
written, since `add` and `update` refuse those that cannot and then change nothing.  The clause
text is kept up to date with the drafts; numbers of drafts are never given out twice. -/

namespace Tabular

/-- The drafts of one dataset. -/
structure Builder where
  /-- The columns of the dataset. -/
  headers : List Text
  /-- The drafts in their order. -/
  drafts : List Draft
  /-- The number of the next draft. -/
  nextId : Nat
  /-- The clause text of the drafts. -/
  clauseText : Text
  deriving DecidableEq, Repr

/-- Why a builder refuses. -/
inductive BuilderError where
  /-- There is no column for a new draft. -/
  | noColumns
  /-- No draft has this number. -/
  | unknownCondition (id : Nat)
  /-- The draft cannot be kept. -/
  | refused (refusal : Draft.Refusal)
  deriving DecidableEq, Repr

/-- What is said about a refusal. -/
def BuilderError.message : BuilderError → String
  | noColumns => "dataset has no columns"
  | unknownCondition id => s!"unknown condition ConditionId({id})"
  | refused .blankColumn => "column name must not be blank"
  | refused (.inexpressible fragment) =>
    "`" ++ String.ofList fragment ++ "` does not read back as the same condition " ++
      "(AND, OR or an operator inside the column or value)"

/-- A change of one field of a draft. -/
inductive Edit where
  | column (column : Text)
  | operator (operator : Operator)
  | value (value : Text)
  | logic (logic : Logic)
  deriving DecidableEq, Repr

/-- The draft after a change. -/
def Edit.apply : Edit → Draft → Draft
  | .column c, d => { d with column := c }
  | .operator op, d => { d with operator := op }
  | .value v, d => { d with value := v }
  | .logic l, d => { d with logic := l }

namespace Builder

/-- A builder without drafts. -/
def new (headers : List Text) : Builder :=
  ⟨headers, [], 0, []⟩

/-- The builder with other drafts and their clause text. -/
def withDrafts (b : Builder) (drafts : List Draft) : Builder :=
  { b with drafts, clauseText := Draft.clauseText drafts }

/-- A draft as it is added: the first column, compared for equality with nothing. -/
def newDraft (id : Nat) (column : Text) : Draft :=
  ⟨id, column, .eq, [], .and⟩

/-- Adds a draft and gives its number. -/
def add (b : Builder) : Except BuilderError (Nat × Builder) :=
  match b.headers with
  | [] => .error .noColumns
  | column :: _ =>
    let d := newDraft b.nextId column
    match d.refusal? with
    | some refusal => .error (.refused refusal)
    | none => .ok (d.id, { b.withDrafts (b.drafts ++ [d]) with nextId := b.nextId + 1 })

/-- Puts a draft in the place of the one with its number. -/
def replace (d : Draft) (drafts : List Draft) : List Draft :=
  drafts.map fun other => if other.id = d.id then d else other

/-- Changes the draft with a number. -/
def update (b : Builder) (id : Nat) (edit : Edit) : Except BuilderError Builder :=
  match b.drafts.find? (·.id = id) with
  | none => .error (.unknownCondition id)
  | some d =>
    match (edit.apply d).refusal? with
    | some refusal => .error (.refused refusal)
    | none => .ok (b.withDrafts (replace (edit.apply d) b.drafts))

/-- Whether a draft has this number. -/
def has (b : Builder) (id : Nat) : Bool :=
  b.drafts.any (·.id = id)

/-- Takes out the draft with a number, if there is one. -/
def remove (b : Builder) (id : Nat) : Builder :=
  if b.has id then b.withDrafts (b.drafts.filter (·.id ≠ id)) else b

/-- Takes out all drafts. -/
def clear (b : Builder) : Builder :=
  b.withDrafts []

/-- Goes over to the columns of another dataset; the drafts are on the old columns, so they go. -/
def switch (b : Builder) (headers : List Text) : Builder :=
  { b with headers }.clear

/-- The clause that the drafts stand for. -/
def clause (b : Builder) : Clause :=
  Draft.clauseOf b.drafts

/-- Whether the drafts hold of a row. -/
def holds (b : Builder) (row : Row) : Bool :=
  b.clause.holds row

end Builder

end Tabular
