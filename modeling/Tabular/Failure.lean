import Tabular.Action
import Tabular.Clause
import Tabular.Csv.Sheet

/-! # Failures

A failure has a cause, and says what was being done when it came up, from the outside to the
inside.  It is reported with what was being done first and then the causes, numbered if there are
several. -/

namespace Tabular

/-- The root of a failure. -/
inductive Cause where
  /-- A rule of the program, in its words. -/
  | rule (message : String)
  /-- A filter that has no clause. -/
  | filter (e : FilterError)
  /-- A file operation. -/
  | io (e : IoError)
  /-- A file of records that is not text. -/
  | records (e : Csv.NotText)
  /-- A list of conditions that cannot be read. -/
  | conditions (message : String)
  /-- A catalog that cannot be read. -/
  | catalog (message : String)
  deriving DecidableEq, Repr

/-- The messages of a cause, from the outside to the inside. -/
def Cause.messages : Cause → List String
  | rule message => [message]
  | filter e => [e.message]
  | io e => [e.message]
  | records e => [e.message, e.cause]
  | conditions message => [message]
  | catalog message => [message]

/-- A cause, and what was being done. -/
structure Failure where
  contexts : List String
  cause : Cause
  /-- Whether the program gives up where it is. -/
  panics : Bool := false
  deriving DecidableEq, Repr

namespace Failure

/-- A failure of which nothing but the cause is said. -/
def of (cause : Cause) : Failure :=
  { contexts := [], cause }

/-- A failure by a rule of the program. -/
def rule (message : String) : Failure :=
  of (.rule message)

/-- A failure while something was being done. -/
def within (context : String) (f : Failure) : Failure :=
  { f with contexts := context :: f.contexts }

/-- The failure of a file that is not text; a record that is not the first one is named. -/
def ofRecords (e : Csv.NotText) : Failure :=
  if e.record = 0 then of (.records e) else (of (.records e)).within s!"record {e.record}"

/-- A text that is no view cannot be printed. -/
def printing (e : IoError) : Failure :=
  { contexts := ["failed printing to stdout"], cause := .io e, panics := true }

/-- Everything that is said about a failure. -/
def messages (f : Failure) : List String :=
  f.contexts ++ f.cause.messages

/-! ### Reports -/

/-- The lines of a message behind a label; the further lines are indented under the first. -/
def labelled (label indent message : Text) : Text :=
  label ++ Text.joinWith ('\n' :: indent) (Text.cutAt '\n' message) ++ ['\n']

/-- A number at the right end of five columns. -/
def numberLabel (n : Nat) : Text :=
  let digits := Nat.toDigits 10 n
  List.replicate (5 - digits.length) ' ' ++ digits ++ [':', ' ']

/-- The lines about some causes. -/
def causesText : List Text → Text
  | [] => []
  | [cause] => labelled (List.replicate 4 ' ') (List.replicate 4 ' ') cause
  | causes => causes.zipIdx.flatMap fun (cause, n) =>
      labelled (numberLabel n) (List.replicate 7 ' ') cause

/-- A failure as it is told to users. -/
def report (f : Failure) : Text :=
  if f.panics then Text.joinWith ": ".toList (f.messages.map String.toList) ++ ['\n'] else
  match f.messages.map String.toList with
  | [] => "Error: \n".toList
  | [message] => "Error: ".toList ++ message ++ ['\n']
  | message :: causes =>
    "Error: ".toList ++ message ++ "\n\nCaused by:\n".toList ++ causesText causes

end Failure

/-! ### Jobs -/

/-- An action that may fail. -/
abbrev Job (α : Type) :=
  ExceptT Failure Action α

namespace Job

variable {α : Type}

/-- A job that fails. -/
def fail (f : Failure) : Job α :=
  throw f

/-- A result, or a job that fails. -/
def ofExcept : Except Failure α → Job α
  | .ok a => pure a
  | .error f => fail f

/-- A job with a context for its failures. -/
def within (context : String) (job : Job α) : Job α :=
  ExceptT.adapt (Failure.within context) job

/-- A request that does not fail. -/
def request (r : Request) : Job r.Answer :=
  ExceptT.lift (Action.request r)

/-- The result of a file operation, or a job that fails. -/
def ofIo : Except IoError α → Job α
  | .ok a => pure a
  | .error e => fail (.of (.io e))

end Job

end Tabular
