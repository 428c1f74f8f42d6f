import Tabular.Dataset
import Tabular.Operator

/-! # The reference of a dataset

What can be asked about a dataset: the operators by their kinds, each with a label and a hint for
the operand, and clauses to copy for each of the columns. -/

namespace Tabular

/-! ### Operators -/

namespace Operator

/-- The name of an operator in words. -/
def label : Operator → String
  | eq => "equals (=)"
  | ne => "not equals (!=)"
  | gt => "greater than (>)"
  | lt => "less than (<)"
  | ge => "greater or equal (>=)"
  | le => "less or equal (<=)"
  | like => "contains (LIKE)"
  | notLike => "does not contain (NOT LIKE)"
  | startsWith => "starts with"
  | endsWith => "ends with"
  | isIn => "is one of (IN)"
  | notIn => "is not one of (NOT IN)"
  | isNull => "is empty (IS NULL)"
  | isNotNull => "is not empty (IS NOT NULL)"

/-- A hint for the operand; empty if there is none to give. -/
def placeholder : Operator → String
  | eq => "Enter exact value"
  | ne => "Enter value to exclude"
  | gt | lt => "Enter number"
  | ge => "Enter minimum value"
  | le => "Enter maximum value"
  | like => "Enter text to search"
  | notLike => "Enter text to exclude"
  | startsWith => "Enter starting text"
  | endsWith => "Enter ending text"
  | isIn => "Enter values separated by commas"
  | notIn => "Enter values to exclude (comma-separated)"
  | isNull | isNotNull => ""

/-- The kinds of operators. -/
inductive Category where
  | comparison
  | text
  | list
  | nullCheck
  deriving DecidableEq, Repr

/-- The heading over the operators of a kind. -/
def Category.title : Category → String
  | comparison => "Comparison"
  | text => "Text"
  | list => "List"
  | nullCheck => "Null Check"

/-- The kind of an operator. -/
def category : Operator → Category
  | eq | ne | gt | lt | ge | le => .comparison
  | like | notLike | startsWith | endsWith => .text
  | isIn | notIn => .list
  | isNull | isNotNull => .nullCheck

/-- The kinds in the order of their headings, each with its operators. -/
def groups : List (Category × List Operator) :=
  [Category.comparison, .text, .list, .nullCheck].map fun c =>
    (c, all.filter fun op => op.category = c)

end Operator

/-- Conditions on a column to copy, one for each family of operators. -/
def columnExamples (column : Text) : List Text :=
  [" = 'value'", " LIKE 'partial'", " > 100", " IN 'val1,val2,val3'", " IS NOT NULL"].map
    fun ending => column ++ ending.toList

/-! ### Lines -/

/-- A text filled up with blanks. -/
def Text.leftAligned (width : Nat) (t : Text) : Text :=
  t ++ List.replicate (width - t.length) ' '

/-- The lines joined into one text, each with its end. -/
def Text.ofLines (lines : List Text) : Text :=
  lines.flatMap (· ++ ['\n'])

/-- The line about an operator. -/
def Operator.referenceLine (op : Operator) : Text :=
  "    ".toList ++ Text.leftAligned 12 op.token ++ ' ' :: op.label.toList ++
    (if op.placeholder.isEmpty then [] else " (".toList ++ op.placeholder.toList ++ [')'])

namespace Dataset

/-- The lines about the dataset itself. -/
def aboutLines (d : Dataset) : List Text :=
  [d.title ++ " Dataset".toList] ++ d.info.description.toList ++
    d.info.primaryKey.toList.map ("Primary key: ".toList ++ ·)

/-- The lines about the operators. -/
def operatorLines : List Text :=
  ["".toList, "Operators:".toList] ++
    Operator.groups.flatMap (fun (category, ops) =>
      ("  ".toList ++ category.title.toList ++ [':']) :: ops.map Operator.referenceLine) ++
    ["  Logical:".toList,
      "    AND, OR (AND binds first: A AND B OR C = A AND (B OR C))".toList]

/-- The lines about the columns. -/
def columnLines (d : Dataset) : List Text :=
  ["".toList, "Columns:".toList] ++
    d.headers.flatMap fun header =>
      ("  ".toList ++ header) :: (columnExamples header).map ("    WHERE ".toList ++ ·)

/-- The whole reference. -/
def reference (d : Dataset) : Text :=
  Text.ofLines (d.aboutLines ++ operatorLines ++ d.columnLines)

end Dataset

end Tabular
