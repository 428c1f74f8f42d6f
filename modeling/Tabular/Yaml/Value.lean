import Tabular.Number.Binary64
import Tabular.Text.Quoted
import Tabular.Yaml.Node

/-! # Values of YAML

A plain scalar is null, a truth value or a number if it is written like one, and text otherwise.  A
tag may say which of them it is, and then it must be written so.  A tag of the document's own
stays with the value.

Whole numbers are written to the base 10, or to the base 16, 8 or 2 after `0x`, `0o` or `0b`; a
number with zeros in front of it is no number.  Other numbers are decimals, infinity and what is no
number. -/

namespace Tabular.Yaml

/-! ### Numbers -/

/-- The text after one of the words for a base, with the base. -/
def afterBase? : Text → Option (Nat × Text)
  | '0' :: 'x' :: t => some (16, t)
  | '0' :: 'o' :: t => some (8, t)
  | '0' :: 'b' :: t => some (2, t)
  | _ => none

/-- The number that digits write, to the base that stands in front of them. -/
def magnitude? (t : Text) : Option Nat :=
  match afterBase? t with
  | some (base, digits) => Number.digitsValue? base digits
  | none => Number.digitsValue? 10 t

/-- A text without the sign at its front. -/
def unsigned (t : Text) : Text :=
  match t with
  | '+' :: t | '-' :: t => t
  | t => t

/-- Whether a text is made of digits with a zero in front of them. -/
def hasLeadingZero (t : Text) : Bool :=
  match unsigned t with
  | '0' :: c :: t => (c :: t).all Char.isDigit
  | _ => false

/-- The whole number that a text writes. -/
def integer? (t : Text) : Option Int :=
  if hasLeadingZero t then none
  else
    match t with
    | '-' :: t => (magnitude? t).map fun n => -n
    | '+' :: t => (magnitude? t).map Int.ofNat
    | t => (magnitude? t).map Int.ofNat

/-- The smallest and the largest whole number that can be held. -/
def holds (n : Int) : Bool :=
  -(Nat.pow 2 63 : Int) ≤ n && n < Nat.pow 2 64

/-- Whether a whole number is out of all bounds and so is no whole number. -/
def isBeyond (n : Int) : Bool :=
  n < -(Nat.pow 2 127 : Int) || Nat.pow 2 128 ≤ n

/-- The words for infinity. -/
def infinityWords : List Text :=
  [".inf".toList, ".Inf".toList, ".INF".toList]

/-- The words for what is no number. -/
def nanWords : List Text :=
  [".nan".toList, ".NaN".toList, ".NAN".toList]

/-- The text of the decimal that a text writes. -/
def decimalText? (t : Text) : Option Text :=
  let body := if t.head? == some '+' then t.drop 1 else t
  if t.head? == some '+' && (body.head? == some '+' || body.head? == some '-') then none
  else if infinityWords.contains body then some ".inf".toList
  else if t.head? == some '-' && infinityWords.contains (t.drop 1) then some "-.inf".toList
  else if nanWords.contains t then some ".nan".toList
  else
    match Number.Literal.scan? body with
    | some (l, []) => if l.value.isInfinite then none else some l.value.compactText
    | _ => none

/-! ### Values -/

/-- What a node stands for.  A number is held as it is written out. -/
inductive Value where
  | null
  | bool (b : Bool)
  | number (text : Text)
  | string (text : Text)
  | list (items : List Value)
  | map (entries : List (Value × Value))
  | tagged (tag : Text) (value : Value)
  deriving Repr, Inhabited, BEq

/-! ### Scalars -/

/-- Whether a text is written like null. -/
def isNull (t : Text) : Bool :=
  ["null".toList, "Null".toList, "NULL".toList, ['~']].contains t

/-- The truth value that a text writes. -/
def bool? (t : Text) : Option Bool :=
  if ["true".toList, "True".toList, "TRUE".toList].contains t then some true
  else if ["false".toList, "False".toList, "FALSE".toList].contains t then some false
  else none

namespace Value

/-- A whole number, if it can be held. -/
def ofInteger (n : Int) : Except Error Value :=
  if holds n then .ok (.number (Number.intText n)) else .error (.type "a value")

/-- The whole number that a text writes, unless it is out of all bounds. -/
def boundedInteger? (t : Text) : Option Int :=
  (integer? t).filter fun n => !isBeyond n

/-- A plain scalar without a tag. -/
def ofPlain (t : Text) : Except Error Value :=
  if t.isEmpty || isNull t then .ok .null
  else
    match bool? t with
    | some b => .ok (.bool b)
    | none =>
      match boundedInteger? t with
      | some n => ofInteger n
      | none =>
        match (if hasLeadingZero t then none else decimalText? t) with
        | some decimal => .ok (.number decimal)
        | none => .ok (.string t)

/-- A scalar with a tag that is not of the document's own. -/
def ofTagged (tag t : Text) : Except Error Value :=
  if tag = commonTag "bool".toList then
    (bool? t).elim (.error (.invalid "a boolean")) fun b => .ok (.bool b)
  else if tag = commonTag "int".toList then
    (boundedInteger? t).elim (.error (.invalid "an integer")) ofInteger
  else if tag = commonTag "float".toList then
    (decimalText? t).elim (.error (.invalid "a float")) fun decimal => .ok (.number decimal)
  else if tag = commonTag "null".toList then
    if isNull t then .ok .null else .error (.invalid "null")
  else .ok (.string t)

/-- The tag of the document's own that a tag is, without its exclamation mark. -/
def ownTag? : Option Text → Option Text
  | some ('!' :: tag) => some tag
  | _ => none

/-- A scalar; a tag of the document's own does not bear on how it is read. -/
def ofScalar (tag : Option Text) (plain : Bool) (t : Text) : Except Error Value :=
  match tag, ownTag? tag with
  | some tag, none => ofTagged tag t
  | _, _ => if plain then ofPlain t else .ok (.string t)

/-- A value with its tag, if that is of the document's own. -/
def withTag (tag : Option Text) (v : Value) : Except Error Value :=
  match ownTag? tag with
  | none => .ok v
  | some [] => .error (.invalid "a tag")
  | some tag => .ok (.tagged tag v)

/-! ### Nodes -/

mutual

/-- What a node stands for.  Lists and mappings may be at most `depth` deep. -/
def ofNode (depth : Nat) : Node → Except Error Value
  | .cycle => .error .depth
  | .scalar tag plain t => ofScalar tag plain t >>= withTag tag
  | .list tag items =>
    if depth = 0 then .error .depth
    else ofItems (depth - 1) items >>= fun vs => withTag tag (.list vs)
  | .map tag entries =>
    if depth = 0 then .error .depth
    else ofEntries (depth - 1) [] entries >>= fun vs => withTag tag (.map vs)

/-- What the items of a list stand for. -/
def ofItems (depth : Nat) : List Node → Except Error (List Value)
  | [] => .ok []
  | n :: rest => do
    let v ← ofNode depth n
    return v :: (← ofItems depth rest)

/-- What the entries of a mapping stand for; no two may have one of the keys. -/
def ofEntries (depth : Nat) (keys : List Value) : List (Node × Node) →
    Except Error (List (Value × Value))
  | [] => .ok []
  | entry :: rest => do
    let (k, v) ← ofEntry depth entry
    if keys.contains k then throw (.duplicate "key")
    return (k, v) :: (← ofEntries depth (k :: keys) rest)

/-- What an entry of a mapping stands for. -/
def ofEntry (depth : Nat) : Node × Node → Except Error (Value × Value)
  | (k, v) => do return (← ofNode depth k, ← ofNode depth v)

end

/-! ### In messages -/

mutual

/-- A value as it appears in a message. -/
def display : Value → Text
  | null => "Null".toList
  | bool b => "Bool(".toList ++ (if b then "true".toList else "false".toList) ++ [')']
  | number t => "Number(".toList ++ t ++ [')']
  | string t => "String(".toList ++ Text.quoted t ++ [')']
  | list items => "Sequence [".toList ++ displayItems items ++ [']']
  | map entries => "Mapping \x7b".toList ++ displayEntries entries ++ ['\x7d']
  | tagged tag v =>
    "TaggedValue \x7b tag: !".toList ++ tag ++ ", value: ".toList ++ display v ++ " \x7d".toList

/-- The items of a list as they appear in a message. -/
def displayItems : List Value → Text
  | [] => []
  | [v] => display v
  | v :: rest => display v ++ ", ".toList ++ displayItems rest

/-- The entries of a mapping as they appear in a message. -/
def displayEntries : List (Value × Value) → Text
  | [] => []
  | [(k, v)] => displayKey k ++ ": ".toList ++ display v
  | (k, v) :: rest =>
    displayKey k ++ ": ".toList ++ display v ++ ", ".toList ++ displayEntries rest

/-- The key of an entry as it appears in a message. -/
def displayKey : Value → Text
  | bool b => if b then "true".toList else "false".toList
  | number t => t
  | string t => Text.quoted t
  | null => "Null".toList
  | list items => "Sequence [".toList ++ displayItems items ++ [']']
  | map entries => "Mapping \x7b".toList ++ displayEntries entries ++ ['\x7d']
  | tagged tag v =>
    "TaggedValue \x7b tag: !".toList ++ tag ++ ", value: ".toList ++ display v ++ " \x7d".toList

end

end Value

end Tabular.Yaml
