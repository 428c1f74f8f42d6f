import Tabular.CommandLine.Options
import Tabular.CommandLine.Parse
import Tabular.Failure
import Tabular.Run

/-! # Sessions

A session is what happens between a command line and the end of the program: help or the version
is printed, or there is a run. -/

namespace Tabular

/-- How a session ends. -/
inductive Ending where
  /-- Everything that was asked for is done. -/
  | done
  /-- The command line cannot be understood. -/
  | misuse (e : UsageError)
  /-- The run has failed. -/
  | failed (f : Failure)
  deriving DecidableEq, Repr

namespace Ending

/-- The code with which the program ends. -/
def code : Ending → UInt32
  | done => 0
  | misuse _ => 2
  | failed f => if f.panics then 101 else 1

/-- What is told to the user at the end. -/
def message : Ending → Text
  | done => []
  | misuse e => e.message.toList ++ ['\n']
  | failed f => f.report

end Ending

/-- The end of a session without a run, in which help or the version may be printed.  It does not
matter whether they can be. -/
def endWithoutRun (catalog : Option Text) : UsageError → Action Ending
  | .displayHelp => do
    let _ ← Action.request (.print (CommandLine.helpText catalog))
    return .done
  | .displayVersion => do
    let _ ← Action.request (.print CommandLine.versionText)
    return .done
  | e => return .misuse e

/-- A session on a command line, with the catalog that the environment names and the day. -/
def session (arguments : List Text) (catalog : Option Text) (date : Date) : Action Ending := do
  match Options.parse arguments catalog with
  | .error e => endWithoutRun catalog e
  | .ok o =>
    match ← (o.run date).run with
    | .ok _ => return .done
    | .error f => return .failed f

end Tabular
