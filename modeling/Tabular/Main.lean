import Std.Time
import Tabular.Session

/-! # The program

Carries out the requests of a session on the files of the machine. -/

namespace Tabular.Main

/-- A failure that the machine reports. -/
def errorOf : IO.Error → IoError
  | .noFileOrDirectory _ _ _ => .notFound
  | .alreadyExists _ _ _ => .alreadyExists
  | .inappropriateType _ 21 _ => .isADirectory
  | .inappropriateType _ 20 _ => .notADirectory
  | .invalidArgument _ 36 _ => .nameTooLong
  | e => .other (toString e)

/-- The result of an operation of the machine. -/
def attempt {α : Type} (operation : IO α) : IO (Except IoError α) := do
  try
    return .ok (← operation)
  catch e => return .error (errorOf e)

/-- The result of an operation on a path, if the path is one. -/
def onPath {α : Type} (path : Text) (operation : String → IO α) : IO (Except IoError α) :=
  match FileSystem.pathError? path with
  | some e => return .error e
  | none => attempt (operation (String.ofList path))

/-- Opens what is at a path and reads it. -/
def read (path : Text) : IO (Except IoError (Except IoError Bytes)) :=
  onPath path fun name => do
    let handle ← IO.FS.Handle.mk name .read
    attempt do return (← handle.readBinToEnd).toList

/-- Whether something of a kind is at a path. -/
def hasKind (path : Text) (kind : IO.FS.FileType) : IO Bool := do
  match ← onPath path fun name => do return (← (← IO.FS.realPath name).metadata).type == kind with
  | .ok found => return found
  | .error _ => return false

/-- Adds to the end of a file. -/
def append (path : Text) (content : Bytes) : IO (Except IoError Unit) :=
  onPath path fun name => do
    let handle ← IO.FS.Handle.mk name .append
    handle.write (ByteArray.mk content.toArray)
    handle.flush

/-- Prints on the standard output. -/
def print (t : Text) : IO (Except IoError Unit) :=
  attempt do
    let out ← IO.getStdout
    out.putStr (String.ofList t)
    out.flush

/-- Carries out a request. -/
def answer : (r : Request) → IO r.Answer
  | .read path => read path
  | .isFile path => hasKind path .file
  | .isDirectory path => hasKind path .dir
  | .createFile path => onPath path fun name => do
    let _ ← IO.FS.Handle.mk name .write
  | .createDirectory path => onPath path fun name => IO.FS.createDir name
  | .append path content => append path content
  | .print t => print t

/-- Carries out an action. -/
def perform {α : Type} : Action α → IO α
  | .done a => return a
  | .ask r next => do perform (next (← answer r))

/-- The day on which the program runs. -/
def today : IO Date := do
  return Date.ofUnixDays (← Std.Time.Timestamp.now).toDaysSinceUnixEpoch.val

end Tabular.Main

/-- Runs the program on a command line. -/
def main (arguments : List String) : IO UInt32 := do
  let catalog ← IO.getEnv (String.ofList Tabular.CommandLine.catalogVariable)
  let session := Tabular.session (arguments.map String.toList) (catalog.map String.toList)
    (← Tabular.Main.today)
  let ending ← Tabular.Main.perform session
  (← IO.getStderr).putStr (String.ofList ending.message)
  return ending.code
