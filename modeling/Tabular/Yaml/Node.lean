import Tabular.Yaml.Token

/-! # Nodes of YAML

A node is read with the nodes in it.  An alias stands for the last node before it with its anchor;
inside of that node itself it has no meaning.  The readers call each other with one step less; a
list of tokens bounds the steps. -/

namespace Tabular.Yaml

/-! ### Nodes -/

/-- A scalar, a list or a mapping with its tag.  The tag `!x` is written with its exclamation
mark, and what a handle stands for is filled in. -/
inductive Node where
  /-- A scalar, and whether it is written without quotation marks and in no block. -/
  | scalar (tag : Option Text) (plain : Bool) (text : Text)
  | list (tag : Option Text) (items : List Node)
  | map (tag : Option Text) (entries : List (Node × Node))
  /-- A node that stands inside of itself. -/
  | cycle
  deriving Repr, Inhabited

namespace Node

/-- What stands where nothing is written. -/
def empty : Node :=
  .scalar none true []

/-- The tag of a node. -/
def tag : Node → Option Text
  | .scalar tag _ _ | .list tag _ | .map tag _ => tag
  | .cycle => none

end Node

/-- The tag of the kinds that all documents share, such as `str`. -/
def commonTag (kind : Text) : Text :=
  "tag:yaml.org,2002:".toList ++ kind

/-! ### Reading from tokens -/

/-- What is left of the tokens, and what the document has named so far. -/
structure Reading where
  tokens : List Token
  /-- The anchors, the last one first. -/
  anchors : List (Text × Node)
  /-- What the handles of tags stand for. -/
  handles : List (Text × Text)

/-- Reads from tokens. -/
abbrev Reader (α : Type) :=
  StateT Reading (Except Error) α

namespace Reader

/-- The next token; the end of the text if there is none. -/
def peek : Reader Token :=
  return (← get).tokens.headD .streamEnd

/-- Passes over a token. -/
def skip : Reader Unit :=
  modify fun r => { r with tokens := r.tokens.tail }

/-- Passes over a token and looks at the one after it. -/
def skipPeek : Reader Token := do
  skip
  peek

/-! ### What stands in front of a node -/

/-- The anchor at the front, if there is one. -/
def anchor? : Reader (Option Text) := do
  match ← peek with
  | .anchor name =>
    skip
    return some name
  | _ => return none

/-- The tag at the front, if there is one, with what its handle stands for. -/
def tag? : Reader (Option Text) := do
  match ← peek with
  | .tag handle own =>
    skip
    if handle.isEmpty then return some own
    match (← get).handles.lookup handle with
    | some stem => return some (stem ++ own)
    | none => throw .unknownHandle
  | _ => return none

/-- The anchor and the tag at the front, in any order. -/
def properties : Reader (Option Text × Option Text) := do
  match ← anchor? with
  | some name => return (some name, ← tag?)
  | none =>
    let tag ← tag?
    return (← anchor?, tag)

/-- Reads a node that an anchor may name. -/
def named (anchor : Option Text) (node : Reader Node) : Reader Node := do
  match anchor with
  | none => node
  | some name =>
    let outer := (← get).anchors
    modify fun r => { r with anchors := (name, .cycle) :: outer }
    let n ← node
    modify fun r =>
      let inner := r.anchors.take (r.anchors.length - outer.length - 1)
      { r with anchors := inner ++ (name, n) :: outer }
    return n

/-- The node that an alias stands for. -/
def aliased (name : Text) : Reader Node := do
  match (← get).anchors.lookup name with
  | some n => return n
  | none => throw .unknownAnchor

/-! ### Nodes -/

mutual

/-- A node; `block` says whether it may be in block style, and `dashes` whether it may be a list
whose dashes are not indented. -/
def node (block dashes : Bool) : (steps : Nat) → Reader Node
  | 0 => throw .depth
  | steps + 1 => do
    if let .alias name ← peek then
      skip
      return ← aliased name
    let (anchor, tag) ← properties
    named anchor do
      match ← peek with
      | .item =>
        if dashes then return .list tag (← dashItems steps)
        else if anchor.isSome || tag.isSome then return .scalar tag true []
        else throw .noContent
      | .scalar plain t =>
        skip
        return .scalar tag plain t
      | .flowListStart =>
        skip
        return .list tag (← flowItems true steps)
      | .flowMapStart =>
        skip
        return .map tag (← flowEntries true steps)
      | .listStart =>
        if !block then throw .noContent
        skip
        return .list tag (← blockItems steps)
      | .mapStart =>
        if !block then throw .noContent
        skip
        return .map tag (← blockEntries steps)
      | _ => if anchor.isSome || tag.isSome then return .scalar tag true [] else throw .noContent

/-- The items of a list in block style. -/
def blockItems : (steps : Nat) → Reader (List Node)
  | 0 => throw .depth
  | steps + 1 => do
    match ← peek with
    | .item =>
      let n ← match ← skipPeek with
        | .item | .blockEnd => pure .empty
        | _ => node true false steps
      return n :: (← blockItems steps)
    | .blockEnd =>
      skip
      return []
    | _ => throw .noEntry

/-- The items of a list whose dashes are not indented. -/
def dashItems : (steps : Nat) → Reader (List Node)
  | 0 => throw .depth
  | steps + 1 => do
    match ← peek with
    | .item =>
      let n ← match ← skipPeek with
        | .item | .key | .value | .blockEnd => pure .empty
        | _ => node true false steps
      return n :: (← dashItems steps)
    | _ => return []

/-- The entries of a mapping in block style. -/
def blockEntries : (steps : Nat) → Reader (List (Node × Node))
  | 0 => throw .depth
  | steps + 1 => do
    match ← peek with
    | .key =>
      let k ← match ← skipPeek with
        | .key | .value | .blockEnd => pure .empty
        | _ => node true true steps
      let v ← blockValue steps
      return (k, v) :: (← blockEntries steps)
    | .blockEnd =>
      skip
      return []
    | _ => throw .noKey

/-- The value of a key in block style. -/
def blockValue : (steps : Nat) → Reader Node
  | 0 => throw .depth
  | steps + 1 => do
    match ← peek with
    | .value =>
      match ← skipPeek with
      | .key | .value | .blockEnd => return .empty
      | _ => node true true steps
    | _ => return .empty

/-- The items of a list in flow style.  A key among them makes a mapping of one entry. -/
def flowItems (first : Bool) : (steps : Nat) → Reader (List Node)
  | 0 => throw .depth
  | steps + 1 => do
    let t ← peek
    if t = .flowListEnd then
      skip
      return []
    let t ← if first then pure t else if t = .comma then skipPeek else throw .noSeparator
    match t with
    | .flowListEnd =>
      skip
      return []
    | .key =>
      let n ← flowPair steps
      return n :: (← flowItems false steps)
    | _ =>
      let n ← node false false steps
      return n :: (← flowItems false steps)

/-- A mapping of one entry in a list in flow style. -/
def flowPair : (steps : Nat) → Reader Node
  | 0 => throw .depth
  | steps + 1 => do
    let k ← match ← skipPeek with
      | .value | .comma | .flowListEnd =>
        skip
        pure .empty
      | _ => node false false steps
    let v ← match ← peek with
      | .value =>
        match ← skipPeek with
        | .comma | .flowListEnd => pure .empty
        | _ => node false false steps
      | _ => pure .empty
    return .map none [(k, v)]

/-- The entries of a mapping in flow style. -/
def flowEntries (first : Bool) : (steps : Nat) → Reader (List (Node × Node))
  | 0 => throw .depth
  | steps + 1 => do
    let t ← peek
    if t = .flowMapEnd then
      skip
      return []
    let t ← if first then pure t else if t = .comma then skipPeek else throw .noSeparator
    match t with
    | .flowMapEnd =>
      skip
      return []
    | .key =>
      let k ← match ← skipPeek with
        | .value | .comma | .flowMapEnd => pure .empty
        | _ => node false false steps
      let v ← match ← peek with
        | .value =>
          match ← skipPeek with
          | .comma | .flowMapEnd => pure .empty
          | _ => node false false steps
        | _ => pure .empty
      return (k, v) :: (← flowEntries false steps)
    | _ =>
      let k ← node false false steps
      return (k, .empty) :: (← flowEntries false steps)

end

/-! ### Documents -/

/-- What handles stand for where a document does not say otherwise. -/
def commonHandles : List (Text × Text) :=
  [(['!'], ['!']), (['!', '!'], commonTag [])]

/-- The directives in front of a document; `version` says whether one has given the version. -/
def directives (version : Bool) (handles : List (Text × Text)) : (steps : Nat) → Reader Unit
  | 0 => throw .depth
  | steps + 1 => do
    match ← peek with
    | .version major minor =>
      if version then throw .repeatedDirective
      if major ≠ 1 || (minor ≠ 1 && minor ≠ 2) then throw .version
      skip
      directives true handles steps
    | .handle handle stem =>
      if handles.any (·.1 = handle) then throw .repeatedDirective
      skip
      directives version (handles ++ [(handle, stem)]) steps
    | _ => modify fun r => { r with handles := handles ++ commonHandles }

/-- The content of a document after three dashes. -/
def content (steps : Nat) : Reader Node := do
  match ← peek with
  | .version .. | .handle .. | .documentStart | .documentEnd | .streamEnd => return .empty
  | _ => node true false steps

/-- Passes over the marks of ends of documents. -/
def skipEnds : (steps : Nat) → Reader Unit
  | 0 => throw .depth
  | steps + 1 => do
    if (← peek) = .documentEnd then
      skip
      skipEnds steps

/-- What follows a document. -/
def behindDocument (documents : Reader (List Node)) : Reader (List Node) := do
  if (← peek) = .documentEnd then skip
  documents

/-- The documents of a text; only the first one may begin without three dashes. -/
def documents (first : Bool) : (steps : Nat) → Reader (List Node)
  | 0 => throw .depth
  | steps + 1 => do
    if !first then skipEnds steps
    modify fun r => { r with anchors := [], handles := commonHandles }
    match ← peek with
    | .streamEnd => return []
    | .version .. | .handle .. | .documentStart =>
      directives false [] steps
      if (← peek) ≠ .documentStart then throw .noDocumentStart
      skip
      let n ← content steps
      return n :: (← behindDocument (documents false steps))
    | _ =>
      if !first then throw .noDocumentStart
      let n ← node true false steps
      return n :: (← behindDocument (documents false steps))

end Reader

/-- The documents that tokens make up. -/
def Node.ofTokens (ts : List Token) : Except Error (List Node) :=
  (Reader.documents true (4 * ts.length + 8)).run' ⟨ts, [], []⟩

end Tabular.Yaml
