import Tabular.CommandLine.Options
import Tabular.Number.Binary64

/-! # Reading the command line

Options are words after two dashes, or letters after one.  A value may be part of the argument, or
is the argument after it; in the second case it is looked at only when the next option comes up, or
at the end.  No option may be given twice.  The catalog may also be named by the environment, which
counts like an option that was given last. -/

namespace Tabular

/-- Why a command line gives no options. -/
inductive UsageError where
  /-- An argument that is no option, and no value of one. -/
  | unknownArgument
  /-- An option that is given twice, or beside one that excludes it. -/
  | argumentConflict
  /-- A value that is missing or not among the possible ones. -/
  | invalidValue
  /-- A value that is no number in range. -/
  | valueValidation
  /-- A value for an option that has none. -/
  | tooManyValues
  /-- The user asks for help. -/
  | displayHelp
  /-- The user asks for the version. -/
  | displayVersion
  deriving DecidableEq, Repr

/-- What is said about a command line that gives no options. -/
def UsageError.message : UsageError → String
  | unknownArgument => "error: unexpected argument found"
  | argumentConflict => "error: an argument cannot be used with another one or multiple times"
  | invalidValue => "error: a value is missing or invalid"
  | valueValidation => "error: a value is not a number in range"
  | tooManyValues => "error: unexpected value found for an argument"
  | displayHelp | displayVersion => ""

namespace CommandLine

/-- The options read so far. -/
structure Progress where
  options : Options
  /-- The options that have their values. -/
  seen : List OptionName
  /-- The last option, if it still waits for its value or the value has not been looked at. -/
  pending : Option (OptionName × Option Text)

/-- Nothing read so far. -/
def Progress.start : Progress :=
  ⟨{}, [], none⟩

/-! ### Values -/

/-- A path, which cannot be empty. -/
def pathValue (value : Text) : Except UsageError (Option Text) :=
  if value.isEmpty then .error .invalidValue else .ok (some value)

/-- The largest number of threads that can be written. -/
def threadLimit : Nat := Nat.pow 2 64

/-- A count: digits, maybe after a plus sign. -/
def countValue (value : Text) : Except UsageError (Option Nat) :=
  let digits := if value.head? == some '+' then value.drop 1 else value
  if digits.isEmpty || !digits.all Char.isDigit || threadLimit ≤ Number.natOfDigits digits then
    .error .valueValidation
  else .ok (some (Number.natOfDigits digits))

/-- The name of a format. -/
def formatValue (value : Text) : Except UsageError (Option Format) :=
  match Format.ofLabel? value with
  | none => .error .invalidValue
  | some f => .ok (some f)

/-- The options with the value of one of them; options without a value are switched on. -/
def setValue (o : Options) (value : Text) : OptionName → Except UsageError Options
  | .input => return { o with input := ← pathValue value }
  | .datasets => return { o with datasets := ← pathValue value }
  | .dataset => .ok { o with dataset := some value }
  | .all => .ok { o with all := true }
  | .clause => .ok { o with clause := some value }
  | .conditions => return { o with conditions := ← pathValue value }
  | .search => .ok { o with search := some value }
  | .output => return { o with output := (← pathValue value).getD o.output }
  | .format => return { o with format := ← formatValue value }
  | .exportDirectory => return { o with exportDirectory := ← pathValue value }
  | .describe => .ok { o with describe := true }
  | .threads => return { o with threads := ← countValue value }
  | .verbose => .ok { o with verbose := true }
  | .help => .error .displayHelp
  | .version => .error .displayVersion

namespace Progress

/-- Takes the value of an option. -/
def accept (p : Progress) (name : OptionName) (value : Text) : Except UsageError Progress := do
  if p.seen.contains name then throw .argumentConflict
  return ⟨← setValue p.options value name, name :: p.seen, none⟩

/-- Looks at the value of the last option. -/
def settle (p : Progress) : Except UsageError Progress :=
  match p.pending with
  | none => .ok p
  | some (_, none) => .error .invalidValue
  | some (name, some value) => { p with pending := none }.accept name value

/-- Goes on to an option with its value. -/
def give (p : Progress) (name : OptionName) (value : Text) : Except UsageError Progress := do
  (← p.settle).accept name value

/-- Goes on to an option whose value is to come. -/
def await (p : Progress) (name : OptionName) : Except UsageError Progress := do
  return { ← p.settle with pending := some (name, none) }

/-- An option after two dashes, with the value after an equals sign if there is one. -/
def longOption (p : Progress) (word : Text) (value : Option Text) : Except UsageError Progress :=
  match OptionName.ofLong? word with
  | none => .error .unknownArgument
  | some name =>
    match name.takesValue, value with
    | true, some value => p.give name value
    | true, none => p.await name
    | false, some _ => .error .tooManyValues
    | false, none => p.give name []

/-- The letters after one dash.  After a letter whose option has a value, the rest is the value. -/
def shortOptions (p : Progress) : Text → Except UsageError Progress
  | [] => .ok p
  | letter :: rest =>
    match OptionName.ofShort? letter with
    | none => .error .unknownArgument
    | some name =>
      if name.takesValue then
        if rest.isEmpty then p.await name
        else p.give name (if rest.head? == some '=' then rest.drop 1 else rest)
      else do
        (← p.give name []).shortOptions rest

/-- An argument that is neither: the value of the last option. -/
def plainArgument (p : Progress) (argument : Text) : Except UsageError Progress :=
  match p.pending with
  | some (name, none) => .ok { p with pending := some (name, some argument) }
  | _ => .error .unknownArgument

/-- One argument. -/
def argument (p : Progress) : Text → Except UsageError Progress
  | '-' :: '-' :: word =>
    match word.span (· ≠ '=') with
    | (name, _ :: value) => p.longOption name (some value)
    | (name, []) => p.longOption name none
  | '-' :: letter :: letters => p.shortOptions (letter :: letters)
  | other => p.plainArgument other

/-- All arguments.  After two dashes alone there must be none. -/
def arguments (p : Progress) : List Text → Except UsageError Progress
  | [] => p.settle
  | ['-', '-'] :: rest => if rest.isEmpty then p.settle else .error .unknownArgument
  | a :: rest => do (← p.argument a).arguments rest

/-- The catalog that the environment names. -/
def environment (p : Progress) (catalog : Option Text) : Except UsageError Progress :=
  match catalog with
  | none => .ok p
  | some path => if p.seen.contains .datasets then .ok p else p.accept .datasets path

/-- The options, if none of them excludes another. -/
def finish (p : Progress) : Except UsageError Options :=
  if (p.options.input.isSome && p.options.datasets.isSome) ||
      (p.options.clause.isSome && p.options.conditions.isSome) then
    .error .argumentConflict
  else .ok p.options

end Progress

end CommandLine

/-- The options of a command line, with the catalog that the environment names. -/
def Options.parse (arguments : List Text) (catalog : Option Text) : Except UsageError Options := do
  let p ← CommandLine.Progress.start.arguments arguments
  (← p.environment catalog).finish

end Tabular
