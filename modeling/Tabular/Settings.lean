import Tabular.Number.Binary64

/-! # Settings

The formats in which a catalog may be written agree on what they can say: nothing, a truth value, a
number, a text, a list or a table.

The names in the outermost table may say where in the settings something stands: `a.b` is the name
`b` in the table `a`, and `a[0]` is the first item of the list `a`.  What is missing on the way to
a place is made, and what stands in the way is replaced.  A table that comes to where there is one
already is merged with it.  A name that is written otherwise stands for itself. -/

namespace Tabular

/-- What a file of settings says. -/
inductive Setting where
  | nothing
  | bool (b : Bool)
  | integer (n : Int)
  | float (x : Number.Binary64)
  | text (t : Text)
  | list (items : List Setting)
  | table (entries : List (Text × Setting))
  deriving Repr, Inhabited

namespace Setting

/-- Whether a whole number is in bounds. -/
def holds (n : Int) : Bool :=
  -(Nat.pow 2 63 : Int) ≤ n && n < Nat.pow 2 63

/-- A setting as a text, which any scalar can be. -/
def toText? : Setting → Option Text
  | bool b => some (if b then "true".toList else "false".toList)
  | integer n => some (Number.intText n)
  | float x => some x.plainText
  | text t => some t
  | nothing | list _ | table _ => none

/-- The setting under a name; of two entries of one name the later one counts. -/
def get? (name : Text) (entries : List (Text × Setting)) : Option Setting :=
  entries.reverse.lookup name

end Setting

/-- Reads settings from a text.  What is said about a text that cannot be read comes with the
error. -/
abbrev SettingsReader :=
  Text → Except String Setting

/-! ### Places in settings -/

namespace Setting

/-- A step from a table or a list to what is in it. -/
inductive Step where
  | name (name : Text)
  /-- A negative number counts from the end. -/
  | index (n : Int)
  deriving DecidableEq, Repr

/-! ### Written form -/

/-- A letter of a name on the way to a place. -/
def isPlaceLetter (c : Char) : Bool :=
  c.isAlphanum || c == '_' || c == '-'

/-- A name at the front of a text, and what follows. -/
def placeName? (t : Text) : Option (Text × Text) :=
  let name := t.takeWhile isPlaceLetter
  if name.isEmpty then none else some (name, t.dropWhile isPlaceLetter)

/-- A number and the closing bracket after it, and what follows; there may be blanks between
them. -/
def placeIndex? (t : Text) : Option (Int × Text) :=
  let skipBlanks := List.dropWhile fun (c : Char) => c == ' ' || c == '\t'
  let body := skipBlanks t
  let digits := (Text.after? ['-'] body).getD body
  let n : Int := Number.natOfDigits (digits.takeWhile Char.isDigit)
  match skipBlanks (digits.dropWhile Char.isDigit) with
  | ']' :: rest =>
    if digits.head?.any Char.isDigit then some (if digits = body then n else -n, rest) else none
  | _ => none

/-- The steps that a text is, of which there are at most `count`. -/
def stepsFrom? : (count : Nat) → Text → Option (List Step)
  | _, [] => some []
  | 0, _ => none
  | count + 1, c :: t =>
    if c = '.' then do
      let (name, rest) ← placeName? t
      return .name name :: (← stepsFrom? count rest)
    else if c = '[' then do
      let (n, rest) ← placeIndex? t
      return .index n :: (← stepsFrom? count rest)
    else none

/-- The steps that lead from the outermost table to a place. -/
def stepsOf (t : Text) : List Step :=
  let found : Option (List Step) := do
    let (name, rest) ← placeName? t
    return .name name :: (← stepsFrom? rest.length rest)
  found.getD [.name t]

/-! ### Putting settings in their places -/

/-- Entries with the setting under a name changed; nothing stands under a new name. -/
def alter (name : Text) (f : Setting → Setting) : List (Text × Setting) → List (Text × Setting)
  | [] => [(name, f nothing)]
  | (n, s) :: rest => if n = name then (n, f s) :: rest else (n, s) :: alter name f rest

/-- The entries of a table; anything else has none. -/
def entries : Setting → List (Text × Setting)
  | table es => es
  | _ => []

/-- The items of a list; anything else has none. -/
def items : Setting → List Setting
  | list ss => ss
  | _ => []

/-- Items with the one at a number changed; there is nothing in the places that have to be
added. -/
def alterItem (n : Int) (f : Setting → Setting) (ss : List Setting) : List Setting :=
  let missing := if n < 0 then n.natAbs - ss.length else n.toNat + 1 - ss.length
  let filled := if n < 0 then List.replicate missing nothing ++ ss
    else ss ++ List.replicate missing nothing
  filled.modify (if n < 0 then filled.length - n.natAbs else n.toNat) f

/-- A setting with what stands at a place in it changed. -/
def alterAt (f : Setting → Setting) : List Step → Setting → Setting
  | [], s => f s
  | .name name :: steps, s => table (alter name (alterAt f steps) s.entries)
  | .index n :: steps, s => list (alterItem n (alterAt f steps) s.items)

mutual

/-- A setting put where another one stands. -/
def mergeInto : (new old : Setting) → Setting
  | table es, old => table (mergeEntries es old.entries)
  | new, _ => new

/-- Entries put where other entries stand. -/
def mergeEntries : (new old : List (Text × Setting)) → List (Text × Setting)
  | [], old => old
  | e :: rest, old => mergeEntries rest (mergeEntry e old)

/-- An entry put where other entries stand. -/
def mergeEntry : Text × Setting → (old : List (Text × Setting)) → List (Text × Setting)
  | (name, s), old => alter name (mergeInto s) old

end

/-- Entries of which a later one has the same name left out. -/
def lastOfEachName : List (Text × Setting) → List (Text × Setting)
  | [] => []
  | e :: rest =>
    if rest.any fun other => other.1 == e.1 then lastOfEachName rest else e :: lastOfEachName rest

/-- The entries of the outermost table, each put in its place. -/
def placed (es : List (Text × Setting)) : List (Text × Setting) :=
  entries <| (lastOfEachName es).foldl
    (fun s e => alterAt (mergeInto e.2) (stepsOf e.1) s) (table [])

end Setting

end Tabular
