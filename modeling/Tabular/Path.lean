import Tabular.Text.Quoted

/-! # Paths

A path is a text whose pieces are separated by slashes.  Empty pieces, and a dot anywhere but at
the front of a relative path, name nothing: they are skipped when the last name, its extension or
the path of the enclosing directory is looked for. -/

namespace Tabular.Path

/-- The pieces of a path between the slashes. -/
def pieces (path : Text) : List Text :=
  Text.cutAt '/' path

/-- Whether a path begins at the root. -/
def isAbsolute (path : Text) : Bool :=
  path.head? == some '/'

/-- A piece that names nothing. -/
def isIdle (piece : Text) : Bool :=
  piece.isEmpty || piece == ['.']

/-- Pieces without the ones at the end that name nothing. -/
def dropIdle (pieces : List Text) : List Text :=
  (pieces.reverse.dropWhile isIdle).reverse

/-- The directory that encloses what a path names; the root and the empty path have none. -/
def parent? (path : Text) : Option Text :=
  match pieces path with
  | [] => none
  | first :: rest =>
    match dropIdle rest with
    | [] => if first.isEmpty then none else some []
    | named =>
      match dropIdle named.dropLast with
      | [] => some (if first.isEmpty then ['/'] else first)
      | outer => some (Text.joinWith ['/'] (first :: outer))

/-- The last name of a path, unless it is one of the dots. -/
def name? (path : Text) : Option Text :=
  match dropIdle (pieces path) with
  | [] => none
  | named => named.getLast?.bind fun piece => if piece == ['.', '.'] then none else some piece

/-- A name cut at its last dot, if the dot is not its first letter. -/
def cutName (name : Text) : Text × Option Text :=
  match (name.reverse.span (· ≠ '.')) with
  | (ending, _ :: front) => if front.isEmpty then (name, none) else (front.reverse, ending.reverse)
  | (_, []) => (name, none)

/-- The last name without its extension. -/
def stem? (path : Text) : Option Text :=
  (name? path).map fun name => (cutName name).1

/-- What follows the last dot of the last name. -/
def extension? (path : Text) : Option Text :=
  (name? path).bind fun name => (cutName name).2

/-- The path that `path` names in the directory `base`. -/
def join (base path : Text) : Text :=
  if isAbsolute path then path
  else if base.isEmpty || base.getLast? == some '/' then base ++ path
  else base ++ '/' :: path

/-- Whether a path is the dash that stands for the standard streams. -/
def isDash (path : Text) : Bool :=
  match pieces path with
  | first :: rest => first == ['-'] && rest.all isIdle
  | [] => false

/-- A path between quotation marks. -/
def quoted (path : Text) : String :=
  String.ofList (Text.quoted path)

end Tabular.Path
