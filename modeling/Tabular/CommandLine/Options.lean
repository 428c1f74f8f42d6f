import Tabular.Format

/-! # Options of the command line, and help on them -/

namespace Tabular

/-- What a command line asks for. -/
structure Options where
  /-- The file of the only dataset. -/
  input : Option Text := none
  /-- The catalog of the datasets. -/
  datasets : Option Text := none
  /-- The key of the dataset to show. -/
  dataset : Option Text := none
  /-- Whether all datasets are shown. -/
  all : Bool := false
  /-- The text of a clause. -/
  clause : Option Text := none
  /-- The file of a list of conditions. -/
  conditions : Option Text := none
  /-- The term to search for. -/
  search : Option Text := none
  /-- The output path; a dash stands for the standard output. -/
  output : Text := ['-']
  /-- The output format, if it is chosen. -/
  format : Option Format := none
  /-- The directory for exports. -/
  exportDirectory : Option Text := none
  /-- Whether the reference of a dataset is asked for. -/
  describe : Bool := false
  /-- The number of threads. -/
  threads : Option Nat := none
  /-- Whether progress is told. -/
  verbose : Bool := false
  deriving DecidableEq, Repr

/-- The names of the options. -/
inductive OptionName where
  | input
  | datasets
  | dataset
  | all
  | clause
  | conditions
  | search
  | output
  | format
  | exportDirectory
  | describe
  | threads
  | verbose
  | help
  | version
  deriving DecidableEq, Repr

namespace OptionName

/-- All options, in the order in which they are listed to users. -/
def every : List OptionName :=
  [input, datasets, dataset, all, clause, conditions, search, output, format, exportDirectory,
    describe, threads, verbose, help, version]

/-- The word that stands for an option after two dashes. -/
def long : OptionName → Text
  | input => "input".toList
  | datasets => "datasets".toList
  | dataset => "dataset".toList
  | all => "all".toList
  | clause => "where".toList
  | conditions => "conditions".toList
  | search => "search".toList
  | output => "output".toList
  | format => "format".toList
  | exportDirectory => "export-dir".toList
  | describe => "describe".toList
  | threads => "threads".toList
  | verbose => "verbose".toList
  | help => "help".toList
  | version => "version".toList

/-- The letter that stands for an option after one dash. -/
def short? : OptionName → Option Char
  | input => some 'i'
  | datasets => some 'd'
  | clause => some 'w'
  | conditions => some 'c'
  | search => some 's'
  | output => some 'o'
  | threads => some 't'
  | verbose => some 'v'
  | help => some 'h'
  | version => some 'V'
  | dataset | all | format | exportDirectory | describe => none

/-- Whether an option has a value. -/
def takesValue : OptionName → Bool
  | all | describe | verbose | help | version => false
  | _ => true

/-- The option of a word. -/
def ofLong? (word : Text) : Option OptionName :=
  every.find? fun n => n.long = word

/-- The option of a letter. -/
def ofShort? (letter : Char) : Option OptionName :=
  every.find? fun n => n.short? = some letter

end OptionName

/-! ### Help -/

namespace CommandLine

/-- The name of the program. -/
def programName : Text :=
  "tabsift".toList

/-- What is printed about the version. -/
def versionText : Text :=
  programName ++ " 0.1.0\n".toList

/-- The variable of the environment that names a catalog. -/
def catalogVariable : Text :=
  "TABSIFT_DATASETS".toList

/-- The word for the value of an option. -/
def valueName (n : OptionName) : Text :=
  match n with
  | .clause => "CLAUSE".toList
  | n => n.long.map fun c => if c = '-' then '_' else c.toUpper

/-- What is said about an option; `catalog` is the catalog that the environment names. -/
def about (catalog : Text) : OptionName → Text
  | .input => "Single CSV file to view".toList
  | .datasets =>
    "Dataset catalogue (YAML) [env: ".toList ++ catalogVariable ++ '=' :: catalog ++ [']']
  | .dataset => "Dataset key to show (default: first in the catalogue)".toList
  | .all => "Filter and show every dataset instead of only the selected one".toList
  | .clause => "WHERE clause, e.g. \"WHERE Status = 'Active' AND Amount > 50000\"".toList
  | .conditions => "Condition list (YAML) assembled into a WHERE clause".toList
  | .search => "Keep rows where any column contains this text".toList
  | .output => "Output file, or '-' for stdout [default: -]".toList
  | .format =>
    "Output format (auto-detected from the output extension if omitted) [possible values: ".toList ++
      Text.joinWith [',', ' '] (Format.all.map Format.label) ++ [']']
  | .exportDirectory =>
    "Also export each shown dataset to `\x7bname\x7d_export_\x7bdate\x7d.csv` here".toList
  | .describe => "List operators and example clauses for the selected dataset".toList
  | .threads => "Number of threads (default: all cores)".toList
  | .verbose => "Enable verbose output".toList
  | .help => "Print help".toList
  | .version => "Print version".toList

/-- How an option is written. -/
def usage (n : OptionName) : Text :=
  "  ".toList ++
    (match n.short? with
      | some c => ['-', c, ',', ' ']
      | none => List.replicate 4 ' ') ++
    "--".toList ++ n.long ++
    (if n.takesValue then " <".toList ++ valueName n ++ ['>'] else [])

/-- The column at which it is said what an option is for. -/
def aboutColumn : Nat :=
  2 + (OptionName.every.map fun n => (usage n).length).foldl max 0

/-- The line about an option. -/
def helpLine (catalog : Text) (n : OptionName) : Text :=
  usage n ++ List.replicate (aboutColumn - (usage n).length) ' ' ++ about catalog n ++ ['\n']

/-- What is printed about all options. -/
def helpText (catalog : Option Text) : Text :=
  "Usage: ".toList ++ programName ++ " [OPTIONS]\n\nOptions:\n".toList ++
    OptionName.every.flatMap (helpLine (catalog.getD []))

end CommandLine

end Tabular
