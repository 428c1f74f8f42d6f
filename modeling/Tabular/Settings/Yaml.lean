import Tabular.Settings
import Tabular.Yaml.Node
import Tabular.Yaml.Token
import Tabular.Yaml.Value

/-! # Settings in YAML

Here the plain scalars are read by the narrower rules that fit settings: only `null` and a tilde
are nothing, only `true` and `false` are truth values, and zeros in front of a whole number do not
count.  The keys of a table are scalars other than nothing, and no two are the same. -/

namespace Tabular.Settings.Yaml

open Tabular.Yaml (Node Error)

/-! ### Scalars -/

/-- The whole number that digits to a base write after an optional sign. -/
def signedInteger? (base : Nat) (t : Text) : Option Int :=
  let n : Option Int :=
    match t with
    | '-' :: t => (Number.digitsValue? base t).map fun n => -n
    | '+' :: t => (Number.digitsValue? base t).map Int.ofNat
    | t => (Number.digitsValue? base t).map Int.ofNat
  n.filter Setting.holds

/-- The number in front of which a word for its base or a plus sign stands. -/
def markedInteger? : Text → Option Int
  | '0' :: 'x' :: t => signedInteger? 16 t
  | '0' :: 'o' :: t => signedInteger? 8 t
  | '+' :: t => signedInteger? 10 t
  | _ => none

/-- Words for numbers that no setting can hold. -/
def isUnbounded (t : Text) : Bool :=
  Yaml.infinityWords.contains (Yaml.unsigned t) || Yaml.nanWords.contains t

/-- The decimal that a text writes. -/
def decimal? (t : Text) : Option Number.Binary64 :=
  if !t.any Char.isDigit then none
  else
    match Number.Literal.scan? t with
    | some (l, []) => some l.value
    | _ => none

/-- A decimal, if a setting can hold it. -/
def ofDecimal (t : Text) : Except Error Setting :=
  match decimal? t with
  | some x => .ok (.float x)
  | none => .error (.invalid "a float")

/-- A plain scalar without a tag. -/
def ofPlain (t : Text) : Except Error Setting :=
  match markedInteger? t with
  | some n => .ok (.integer n)
  | none =>
    if t.isEmpty || t = ['~'] || t = "null".toList then .ok .nothing
    else if t = "true".toList then .ok (.bool true)
    else if t = "false".toList then .ok (.bool false)
    else
      match signedInteger? 10 t with
      | some n => .ok (.integer n)
      | none =>
        if isUnbounded t || (decimal? t).isSome then ofDecimal t else .ok (.text t)

/-- A plain scalar with a tag; one that is not written as the tag says is nothing. -/
def ofTagged (tag t : Text) : Except Error Setting :=
  if tag = Yaml.commonTag "bool".toList then
    .ok (if t = "true".toList then .bool true else if t = "false".toList then .bool false
      else .nothing)
  else if tag = Yaml.commonTag "int".toList then
    .ok ((signedInteger? 10 t).elim .nothing .integer)
  else if tag = Yaml.commonTag "float".toList then
    if isUnbounded t || (decimal? t).isSome then ofDecimal t else .ok .nothing
  else if tag = Yaml.commonTag "null".toList then .ok .nothing
  else .ok (.text t)

/-- A scalar. -/
def ofScalar (tag : Option Text) (plain : Bool) (t : Text) : Except Error Setting :=
  if !plain then .ok (.text t)
  else
    match tag with
    | some tag => ofTagged tag t
    | none => ofPlain t

/-- What makes two scalar keys the same: the kind and the text. -/
def keyOf : Setting → Except Error (Nat × Text)
  | .text t => .ok (0, t)
  | .integer n => .ok (1, Number.intText n)
  | .bool b => .ok (2, if b then "true".toList else "false".toList)
  | .float x => .ok (3, x.plainText)
  | .nothing | .list _ | .table _ => .error (.type "a key")

/-! ### Nodes -/

mutual

/-- The setting that a node is. -/
def ofNode : Node → Except Error Setting
  | .cycle => .ok .nothing
  | .scalar tag plain t => ofScalar tag plain t
  | .list _ items => (ofItems items).map .list
  | .map _ entries => (ofEntries [] entries).map .table

/-- The settings that nodes are. -/
def ofItems : List Node → Except Error (List Setting)
  | [] => .ok []
  | n :: rest => do
    let s ← ofNode n
    return s :: (← ofItems rest)

/-- The entries of a table; `keys` are those of the entries before. -/
def ofEntries (keys : List (Nat × Text)) : List (Node × Node) →
    Except Error (List (Text × Setting))
  | [] => .ok []
  | entry :: rest => do
    let (k, v) ← ofEntry entry
    if keys.contains k then throw (.duplicate (String.ofList k.2))
    return (k.2, v) :: (← ofEntries (k :: keys) rest)

/-- An entry of a table. -/
def ofEntry : Node × Node → Except Error ((Nat × Text) × Setting)
  | (k, v) => do return (← keyOf (← ofNode k), ← ofNode v)

end

/-- The settings in a text; no document stands for no settings. -/
def ofText (t : Text) : Except Error Setting := do
  match ← Node.ofTokens (← Tabular.Yaml.tokens t) with
  | [] => return .table []
  | [n] => ofNode n
  | _ => throw .documents

/-- Reads settings in YAML. -/
def read : SettingsReader := fun t =>
  (ofText t).mapError Error.message

end Tabular.Settings.Yaml
