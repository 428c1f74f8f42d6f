import Tabular.Number.Literal
import Tabular.Yaml.Character

/-! # Anchors, tags and directives

The names and addresses that may stand in front of a node or a document.  Every reader gives what
it has read and what follows it. -/

namespace Tabular.Yaml

/-! ### Names -/

/-- A name of letters, digits, underscores and hyphens, and what follows it. -/
def scanName (t : Text) : Text × Text :=
  (t.takeWhile isNameChar, t.dropWhile isNameChar)

/-- A character that may follow the name of an anchor. -/
def endsAnchor (c : Char) : Bool :=
  isGap c || c == '?' || c == ':' || c == ',' || c == ']' || c == '\x7d' || c == '%' || c == '@' ||
    c == '\x60'

/-- The name after `&` or `*`. -/
def anchorName (t : Text) : Except Error (Text × Text) :=
  let (name, rest) := scanName t
  if name.isEmpty || !rest.head?.all endsAnchor then .error .anchorName else .ok (name, rest)

/-! ### Addresses -/

/-- The byte that two digits to the base 16 after a percent sign write. -/
def escapedByte? : Text → Option (Nat × Text)
  | '%' :: t => Number.hexNumber? 2 0 t
  | _ => none

/-- The number that so many continuing bytes after percent signs complete. -/
def escapedTail? : (count n : Nat) → Text → Option (Nat × Text)
  | 0, n, t => some (n, t)
  | count + 1, n, t =>
    match escapedByte? t with
    | some (b, rest) =>
      if 0x80 ≤ b && b < 0xC0 then escapedTail? count (0x40 * n + (b - 0x80)) rest else none
    | none => none

/-- A character whose bytes are written after percent signs. -/
def escapedChar? (t : Text) : Option (Char × Text) :=
  match escapedByte? t with
  | none => none
  | some (b, rest) =>
    let found :=
      if b < 0x80 then some (b, rest)
      else if b < 0xC0 then none
      else if b < 0xE0 then escapedTail? 1 (b - 0xC0) rest
      else if b < 0xF0 then escapedTail? 2 (b - 0xE0) rest
      else if b < 0xF8 then escapedTail? 3 (b - 0xF0) rest
      else none
    found.map fun (n, rest) => (Char.ofNat n, rest)

/-- A character of an address; brackets and commas only where the address stands between angle
brackets or in a directive. -/
def isAddressChar (whole : Bool) (c : Char) : Bool :=
  isNameChar c || ";/?:@&=+$.%!~*'()".toList.contains c ||
    (whole && (c == ',' || c == '[' || c == ']'))

/-- An address of at most `steps` characters. -/
def addressFrom (whole : Bool) : (steps : Nat) → Text → Except Error (Text × Text)
  | 0, t => .ok ([], t)
  | _ + 1, [] => .ok ([], [])
  | steps + 1, c :: t =>
    if !isAddressChar whole c then .ok ([], c :: t)
    else if c = '%' then
      match escapedChar? (c :: t) with
      | none => .error .tag
      | some (x, rest) => do
        let (more, rest) ← addressFrom whole steps rest
        return (x :: more, rest)
    else do
      let (more, rest) ← addressFrom whole steps t
      return (c :: more, rest)

/-- An address. -/
def address (whole : Bool) (t : Text) : Except Error (Text × Text) :=
  addressFrom whole (t.length + 1) t

/-! ### Tags -/

/-- The handle at the front of a tag: an exclamation mark, a name and maybe another mark. -/
def scanHandle : Text → Except Error (Text × Text)
  | '!' :: t =>
    let (name, rest) := scanName t
    match rest with
    | '!' :: rest => .ok ('!' :: name ++ ['!'], rest)
    | rest => .ok ('!' :: name, rest)
  | _ => .error .tag

/-- Whether a handle has its second exclamation mark. -/
def isClosedHandle (handle : Text) : Bool :=
  2 ≤ handle.length && handle.getLast? == some '!'

/-- The handle of a tag and the rest of it. -/
def scanTag (t : Text) : Except Error ((Text × Text) × Text) := do
  match t with
  | '!' :: '<' :: t =>
    let (whole, rest) ← address true t
    if whole.isEmpty then throw .tag
    match rest with
    | '>' :: rest => return (([], whole), rest)
    | _ => throw .tag
  | t =>
    let (handle, rest) ← scanHandle t
    let (own, rest) ← address false rest
    if isClosedHandle handle then
      if own.isEmpty then throw .tag
      return ((handle, own), rest)
    let own := handle.drop 1 ++ own
    return (if own.isEmpty then ([], ['!']) else (['!'], own), rest)

/-! ### Directives -/

/-- What a directive says. -/
inductive Directive where
  | version (major minor : Nat)
  | handle (handle stem : Text)

/-- The longest number in the version of a document. -/
def longestVersion : Nat := 9

/-- A number in the version of a document. -/
def scanVersion (t : Text) : Except Error (Nat × Text) :=
  let digits := t.takeWhile Char.isDigit
  if digits.isEmpty || longestVersion < digits.length then .error .directive
  else .ok (digits.foldl (fun n c => 10 * n + (c.toNat - '0'.toNat)) 0, t.dropWhile Char.isDigit)

/-- A directive after its percent sign, up to the end of the line, which is not read. -/
def scanDirective (t : Text) : Except Error (Directive × Text) := do
  let (name, rest) := scanName t
  if name.isEmpty || !startsGap rest then throw .directive
  let rest := rest.dropWhile isBlank
  if name = "YAML".toList then
    let (major, rest) ← scanVersion rest
    match rest with
    | '.' :: rest =>
      let (minor, rest) ← scanVersion rest
      return (.version major minor, rest)
    | _ => throw .directive
  else if name = "TAG".toList then
    let (handle, rest) ← scanHandle rest
    if !isClosedHandle handle && handle ≠ ['!'] then throw .directive
    if !rest.head?.any isBlank then throw .directive
    let (stem, rest) ← address true (rest.dropWhile isBlank)
    if stem.isEmpty || !startsGap rest then throw .directive
    return (.handle handle stem, rest)
  else throw .directive

end Tabular.Yaml
