import Tabular.Files

/-! # Actions

What the program does to the world is a value: an action either is done, or makes a request and
goes on with the answer.  An action can be run on a workspace, which is a file system together
with the text printed so far, and that run is a function; so what an action reads, writes and
prints can be reasoned about.

In this run whatever can be written is written.  In the world writing can fail at any time, and
`Action.Goes` has all the ways in which an action can go then, the run among them
(`Action.goes_run`). -/

namespace Tabular

/-- A request to the world. -/
inductive Request where
  /-- To open what is at a path and to read it. -/
  | read (path : Text)
  /-- To tell whether there is a file at a path. -/
  | isFile (path : Text)
  /-- To tell whether there is a directory at a path. -/
  | isDirectory (path : Text)
  /-- To make an empty file. -/
  | createFile (path : Text)
  /-- To make a directory in one that is there. -/
  | createDirectory (path : Text)
  /-- To add to the end of a file. -/
  | append (path : Text) (content : Bytes)
  /-- To print on the standard output. -/
  | print (text : Text)
  deriving DecidableEq, Repr

/-- The answers to a request. -/
abbrev Request.Answer : Request → Type
  | read _ => Except IoError (Except IoError Bytes)
  | isFile _ | isDirectory _ => Bool
  | createFile _ | createDirectory _ | append _ _ | print _ => Except IoError Unit

/-- Whether a request only looks at the world. -/
def Request.looks : Request → Bool
  | read _ | isFile _ | isDirectory _ => true
  | createFile _ | createDirectory _ | append _ _ | print _ => false

/-- Requests to the world up to a result. -/
inductive Action (α : Type) where
  | done (result : α)
  | ask (request : Request) (next : request.Answer → Action α)

namespace Action

variable {α β γ : Type}

/-- One action after the other. -/
def bind : Action α → (α → Action β) → Action β
  | done a, f => f a
  | ask r next, f => ask r fun answer => (next answer).bind f

instance : Monad Action where
  pure := done
  bind := bind

theorem bind_done (x : Action α) : x.bind done = x := by
  induction x with
  | done _ => rfl
  | ask r next ih => exact congrArg (ask r) (funext ih)

theorem bind_assoc (x : Action α) (f : α → Action β) (g : β → Action γ) :
    (x.bind f).bind g = x.bind fun a => (f a).bind g := by
  induction x with
  | done _ => rfl
  | ask r next ih => exact congrArg (ask r) (funext ih)

instance : LawfulMonad Action :=
  LawfulMonad.mk' Action bind_done (fun _ _ => rfl) bind_assoc

/-- A single request. -/
def request (r : Request) : Action r.Answer :=
  ask r done

end Action

/-! ### Running on a workspace -/

/-- Files, and the text printed so far. -/
structure Workspace where
  files : FileSystem
  printed : Text

namespace Workspace

/-- The workspace after making a file or a directory. -/
def updated (w : Workspace) : Except IoError FileSystem → Except IoError Unit × Workspace
  | .ok files => (.ok (), { w with files })
  | .error e => (.error e, w)

/-- The answer to a request if nothing written is lost, and the workspace after it. -/
def answer (w : Workspace) : (r : Request) → r.Answer × Workspace
  | .read path => (w.files.read path, w)
  | .isFile path => (w.files.isFile path, w)
  | .isDirectory path => (w.files.isDirectory path, w)
  | .createFile path => w.updated (w.files.createFile path)
  | .createDirectory path => w.updated (w.files.createDirectory path)
  | .append path content => (.ok (), { w with files := w.files.append path content })
  | .print text => (.ok (), { w with printed := w.printed ++ text })

/-- The answers that there can be to a request, and the workspaces after them.  What is asked of the
world but a look can fail for reasons of its own, and when writing does so anything may have been
written by then. -/
inductive Answers (w : Workspace) : (r : Request) → r.Answer → Workspace → Prop where
  | usual (r : Request) : Answers w r (w.answer r).1 (w.answer r).2
  | noFile (path : Text) (e : IoError) : Answers w (.createFile path) (.error e) w
  | noDirectory (path : Text) (e : IoError) : Answers w (.createDirectory path) (.error e) w
  | unwritten (path : Text) (content part : Bytes) (e : IoError) :
      Answers w (.append path content) (.error e) { w with files := w.files.append path part }
  | unprinted (text part : Text) (e : IoError) :
      Answers w (.print text) (.error e) { w with printed := w.printed ++ part }

variable {w w' : Workspace} {r : Request}

theorem answer_of_looks (looks : r.looks = true) : (w.answer r).2 = w := by
  cases r with
  | read path | isFile path | isDirectory path => rfl
  | createFile path | createDirectory path | append path content | print text => cases looks

theorem Answers.of_looks {a : r.Answer} (h : w.Answers r a w') (looks : r.looks = true) :
    a = (w.answer r).1 ∧ w' = w := by
  cases h with
  | usual => exact ⟨rfl, answer_of_looks looks⟩
  | noFile | noDirectory | unwritten | unprinted => cases looks

end Workspace

namespace Action

variable {α β : Type}

/-- The result of an action, and the workspace after it. -/
def run : Action α → Workspace → α × Workspace
  | done a, w => (a, w)
  | ask r next, w => (next (w.answer r).1).run (w.answer r).2

theorem run_bind (x : Action α) (f : α → Action β) (w : Workspace) :
    (x >>= f).run w = (f (x.run w).1).run (x.run w).2 := by
  show (x.bind f).run w = _
  induction x generalizing w with
  | done a => rfl
  | ask r next ih => exact ih _ _

/-- The ways in which an action can go: its result, and the workspace after it. -/
inductive Goes : Action α → Workspace → α → Workspace → Prop where
  | done (a : α) (w : Workspace) : Goes (done a) w a w
  | ask {r : Request} {next : r.Answer → Action α} {w w₁ w₂ : Workspace} {answer : r.Answer} {a : α}
      (answers : w.Answers r answer w₁) (rest : Goes (next answer) w₁ a w₂) :
      Goes (ask r next) w a w₂

theorem goes_run (x : Action α) (w : Workspace) : x.Goes w (x.run w).1 (x.run w).2 := by
  induction x generalizing w with
  | done a => exact .done a w
  | ask r next ih => exact .ask (.usual r) (ih _ _)

end Action

end Tabular
