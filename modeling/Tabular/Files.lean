import Tabular.Path
import Tabular.Text.Utf8

/-! # Files and directories

A file system says what is at a location, which is the list of the names on the way from the root.
A path is looked up one piece after the other from the current directory or the root. -/

namespace Tabular

/-- Why an operation on a file failed. -/
inductive IoError where
  /-- There is nothing by this name. -/
  | notFound
  /-- It is a directory. -/
  | isADirectory
  /-- A file stands where a directory is needed. -/
  | notADirectory
  /-- There is something by this name. -/
  | alreadyExists
  /-- The name is too long. -/
  | nameTooLong
  /-- The name has a NUL in it. -/
  | nulInName
  /-- The file was to be text and is not. -/
  | notText
  /-- Anything else, in the words of the system. -/
  | other (message : String)
  deriving DecidableEq, Repr

/-- What is said about a failed operation. -/
def IoError.message : IoError → String
  | notFound => "No such file or directory (os error 2)"
  | isADirectory => "Is a directory (os error 21)"
  | notADirectory => "Not a directory (os error 20)"
  | alreadyExists => "File exists (os error 17)"
  | nameTooLong => "File name too long (os error 36)"
  | nulInName => "file name contained an unexpected NUL byte"
  | notText => "stream did not contain valid UTF-8"
  | other message => message

/-! ### File systems -/

/-- The names on the way from the root. -/
abbrev Location := List Text

/-- What is at a location. -/
inductive FileNode where
  | file (content : Bytes)
  | directory
  deriving DecidableEq, Repr

/-- What is at some locations, and the current directory.  At the root there is a directory. -/
structure FileSystem where
  entries : List (Location × FileNode)
  current : Location
  deriving Repr

namespace FileSystem

/-! ### Locations -/

/-- What is at a location. -/
def node? (fs : FileSystem) (l : Location) : Option FileNode :=
  if l = [] then some .directory else fs.entries.lookup l

/-- Puts something at a location. -/
def put (fs : FileSystem) (l : Location) (n : FileNode) : FileSystem :=
  { fs with entries := (l, n) :: fs.entries.filter (·.1 ≠ l) }

/-! ### Looking up a path -/

/-- Where a path leads. -/
inductive Found where
  /-- To something. -/
  | node (location : Location) (n : FileNode)
  /-- To a name that is not taken, in a directory. -/
  | free (location : Location)

/-- The longest name, in bytes. -/
def longestName : Nat := 255

/-- A path of this many bytes is too long. -/
def pathLimit : Nat := 4096

/-- Looks up pieces from a location on. -/
def walk (fs : FileSystem) (l : Location) : List Text → Except IoError Found
  | [] =>
    match fs.node? l with
    | some n => .ok (.node l n)
    | none => .error .notFound
  | piece :: rest =>
    match fs.node? l with
    | some .directory =>
      if Path.isIdle piece then fs.walk l rest
      else if piece = ['.', '.'] then fs.walk l.dropLast rest
      else if longestName < Utf8.size piece then .error .nameTooLong
      else
        match fs.node? (l ++ [piece]) with
        | some _ => fs.walk (l ++ [piece]) rest
        | none => if rest.all List.isEmpty then .ok (.free (l ++ [piece])) else .error .notFound
    | some (.file _) => .error .notADirectory
    | none => .error .notFound

/-- Where the lookup of a path begins. -/
def origin (fs : FileSystem) (path : Text) : Location :=
  if Path.isAbsolute path then [] else fs.current

/-- Why no path can be looked up, whatever the files are. -/
def pathError? (path : Text) : Option IoError :=
  if path.contains '\x00' then some .nulInName
  else if path.isEmpty then some .notFound
  else if pathLimit ≤ Utf8.size path then some .nameTooLong
  else none

/-- Looks up a path. -/
def find (fs : FileSystem) (path : Text) : Except IoError Found :=
  match pathError? path with
  | some e => .error e
  | none => fs.walk (fs.origin path) (Path.pieces path)

/-- Whether a path leads to a file. -/
def isFile (fs : FileSystem) (path : Text) : Bool :=
  match fs.find path with
  | .ok (.node _ (.file _)) => true
  | _ => false

/-- Whether a path leads to a directory. -/
def isDirectory (fs : FileSystem) (path : Text) : Bool :=
  match fs.find path with
  | .ok (.node _ .directory) => true
  | _ => false

/-! ### Reading -/

/-- Opens what is at a path and reads it.  A directory can be opened, but not read. -/
def read (fs : FileSystem) (path : Text) : Except IoError (Except IoError Bytes) :=
  match fs.find path with
  | .error e => .error e
  | .ok (.free _) => .error .notFound
  | .ok (.node _ (.file content)) => .ok (.ok content)
  | .ok (.node _ .directory) => .ok (.error .isADirectory)

/-! ### Making files and directories -/

/-- The pieces of a path in front of its last name and that name.  What follows the last name can
only be empty, and there is none if the last piece that is not empty is one of the dots. -/
def lastName? (path : Text) : Option (List Text × Text) :=
  match (Path.pieces path).reverse.dropWhile List.isEmpty with
  | last :: front =>
    if last = ['.'] || last = ['.', '.'] then none else some (front.reverse, last)
  | [] => none

/-- The location of a name in the directory that pieces lead to. -/
def inDirectory (fs : FileSystem) (l : Location) (front : List Text) (name : Text) :
    Except IoError Location :=
  match fs.walk l front with
  | .error e => .error e
  | .ok (.free _) => .error .notFound
  | .ok (.node _ (.file _)) => .error .notADirectory
  | .ok (.node at_ .directory) => .ok (at_ ++ [name])

/-- Whether a path ends in a slash. -/
def endsInSlash (path : Text) : Bool :=
  path.getLast? == some '/'

/-- Makes an empty file at a path, in the place of the file that is there. -/
def createFile (fs : FileSystem) (path : Text) : Except IoError FileSystem :=
  match pathError? path with
  | some e => .error e
  | none =>
    match lastName? path with
    | some (front, name) =>
      match fs.inDirectory (fs.origin path) front name with
      | .error e => .error e
      | .ok l =>
        if endsInSlash path then .error .isADirectory
        else if longestName < Utf8.size name then .error .nameTooLong
        else if fs.node? l = some .directory then .error .isADirectory
        else .ok (fs.put l (.file []))
    | none =>
      match fs.find path with
      | .error e => .error e
      | .ok _ => .error .isADirectory

/-- Makes a directory at a path. -/
def createDirectory (fs : FileSystem) (path : Text) : Except IoError FileSystem :=
  match pathError? path with
  | some e => .error e
  | none =>
    match lastName? path with
    | some (front, name) =>
      match fs.inDirectory (fs.origin path) front name with
      | .error e => .error e
      | .ok l =>
        if longestName < Utf8.size name then .error .nameTooLong
        else if (fs.node? l).isSome then .error .alreadyExists
        else .ok (fs.put l .directory)
    | none =>
      match fs.find path with
      | .error e => .error e
      | .ok _ => .error .alreadyExists

/-- Adds to the end of the file at a path, if there is one. -/
def append (fs : FileSystem) (path : Text) (content : Bytes) : FileSystem :=
  match fs.find path with
  | .ok (.node l (.file before)) => fs.put l (.file (before ++ content))
  | _ => fs

end FileSystem

end Tabular
