import Tftp.Yaml.Layout
import Tftp.Yaml.Node

/-!
# Documents

The nodes of a document are read from tokens.

* An alias is the node that has its name. A name is given once, and in front of the alias; the node
  may be one around it.
* Where a node may be left out, an empty scalar stands.
* Collections lie in one another up to a limit (`Reading.maxDepth`).
* A text has at most one document; a text without one has no node.
-/

namespace Tftp.Yaml

/-- A document: its nodes, and which of them it is. -/
structure Document where
  nodes : Nodes
  root : NodeId
  deriving Repr, Inhabited

/-- The tokens to be read, what the names in them mean, and the nodes that were found. -/
structure Reading where
  tokens : List Token
  /-- what tag handles stand for -/
  handles : List (String × String)
  /-- the nodes of the names -/
  names : List (String × NodeId) := []
  /-- the nodes so far, of which a collection is empty until all of it is read -/
  nodes : Nodes := #[]
  /-- how many collections the next node lies in -/
  depth : Nat := 0

namespace Reading

/-- What tag handles stand for unless a directive says otherwise. -/
def defaultHandles : List (String × String) := [("!", "!"), ("!!", Tag.stem)]

/-- Reading of a part of a document. -/
abbrev Read := StateT Reading (Except Problem)

/-- The next token, up to which the text can be read. -/
def peek : Read Token := do
  match (← get).tokens.headD .textEnd with
  | .unreadable problem => throw problem
  | t => return t

/-- The next token is read. -/
def advance : Read Unit := modify fun r => { r with tokens := r.tokens.drop 1 }

/-- The document is refused. -/
def refuse {α : Type} : Read α := throw .refused

/-- A given token is read. -/
def expect (t : Token) : Read Unit := do
  if (← peek) = t then advance else refuse

/-- A token that may be left out is read. The answer is whether it was there. -/
def takes (t : Token) : Read Bool := do
  if (← peek) = t then
    advance
    return true
  else return false

/-! ## Names and tags -/

/-- A node is found under the name in front of it. A name is given once. -/
def add (anchor : Option String) (n : Node) : Read NodeId := do
  let r ← get
  let id := r.nodes.size
  match anchor with
  | none => set { r with nodes := r.nodes.push n }
  | some name =>
    if (r.names.lookup name).isSome then refuse
    else set { r with nodes := r.nodes.push n, names := (name, id) :: r.names }
  return id

/-- The node of a name. -/
def named (name : String) : Read NodeId := do
  match (← get).names.lookup name with
  | some id => return id
  | none => refuse

/-- The full name of a tag. -/
def fullName (tag : TagName) : Read String := do
  match tag.handle with
  | none => return tag.suffix
  | some h =>
    match (← get).handles.lookup h with
    | some stem => return stem ++ tag.suffix
    | none => refuse

/-- What stands in front of a node. -/
structure Properties where
  anchor : Option String
  tag : Option String

/-- The name and the tag in front of a node, in either order. A lone exclamation mark is no tag:
it only makes a text count as plain. -/
def properties : Read Properties := do
  match ← peek with
  | .anchor name =>
    advance
    match ← peek with
    | .tag t =>
      advance
      return ⟨some name, some (← fullName t)⟩
    | _ => return ⟨some name, none⟩
  | .tag t =>
    advance
    match ← peek with
    | .anchor name =>
      advance
      return ⟨some name, some (← fullName t)⟩
    | _ => return ⟨none, some (← fullName t)⟩
  | _ => return ⟨none, none⟩

/-- The tag of a collection, which is that of its kind unless one is written. -/
def collectionTag (tag : Option String) (kind : Tag) : Tag :=
  match tag with
  | none | some "!" => kind
  | some name => Tag.ofName name

/-- The tag of a scalar. -/
def scalarTag (tag : Option String) (plain : Bool) (text : Codes) : Tag :=
  match tag with
  | none => if plain then Tag.ofText text else .text
  | some "!" => Tag.ofText text
  | some name => Tag.ofName name

/-- A scalar. -/
def scalar (p : Properties) (plain : Bool) (text : Codes) : Read NodeId :=
  add p.anchor { tag := scalarTag p.tag plain text, content := .scalar text }

/-- How many collections a node may lie in. -/
def maxDepth : Nat := 485

/-- Something inside a collection is read. -/
def inside {α : Type} (read : Read α) : Read α := do
  let r ← get
  if r.depth = maxDepth then throw .tooDeep
  set { r with depth := r.depth + 1 }
  let x ← read
  modify fun r => { r with depth := r.depth - 1 }
  return x

/-- A collection, which has its number while its content is read. -/
def collection (p : Properties) (kind : Tag) (content : Read Content) : Read NodeId := do
  let id ← add p.anchor { tag := collectionTag p.tag kind, content := .sequence [] }
  let content ← inside content
  modify fun r => { r with nodes := r.nodes.setContent id content }
  return id

/-- A node that is left out in front of given tokens. -/
def unlessNext (stops : List Token) (read : Read NodeId) : Read NodeId := do
  if stops.contains (← peek) then add none .empty else read

/-- The value of a key, which is left out without a colon or in front of given tokens. -/
def valueUnlessNext (stops : List Token) (read : Read NodeId) : Read NodeId := do
  if ← takes .value then unlessNext stops read else add none .empty

/-! ## Nodes -/

mutual

/-- A node. A block can stand only outside brackets, and entries without a block of their own only
where a mapping allows it. -/
def node (block bareEntries : Bool) : Nat → Read NodeId
  | 0 => refuse
  | fuel + 1 => do
    match ← peek with
    | .reference name =>
      advance
      named name
    | _ =>
      let p ← properties
      match ← peek, block, bareEntries with
      | .blockEntry, _, true => collection p .sequence (.sequence <$> entries true fuel)
      | .scalar text plain, _, _ =>
        advance
        scalar p plain text
      | .flowSequenceStart, _, _ =>
        advance
        collection p .sequence (.sequence <$> flowItems true fuel)
      | .flowMappingStart, _, _ =>
        advance
        collection p .map (.mapping <$> flowPairs true fuel)
      | .blockSequenceStart, true, _ =>
        advance
        collection p .sequence (.sequence <$> entries false fuel)
      | .blockMappingStart, true, _ =>
        advance
        collection p .map (.mapping <$> blockPairs fuel)
      | _, _, _ => if p.anchor.isSome || p.tag.isSome then scalar p true [] else refuse

/-- The entries of a sequence after dashes, up to the end of its block if it has one of its own. -/
def entries (bare : Bool) : Nat → Read (List NodeId)
  | 0 => refuse
  | fuel + 1 => do
    if ← takes .blockEntry then
      let stops : List Token :=
        if bare then [.blockEntry, .key, .value, .blockEnd] else [.blockEntry, .blockEnd]
      let item ← unlessNext stops (node true false fuel)
      return item :: (← entries bare fuel)
    else if bare then return []
    else
      expect .blockEnd
      return []

/-- The entries of a mapping up to the end of its block. -/
def blockPairs : Nat → Read (List Entry)
  | 0 => refuse
  | fuel + 1 => do
    if ← takes .key then
      let stops : List Token := [.key, .value, .blockEnd]
      let k ← unlessNext stops (node true true fuel)
      let v ← valueUnlessNext stops (node true true fuel)
      return (k, v) :: (← blockPairs fuel)
    else
      expect .blockEnd
      return []

/-- The items of a sequence up to its closing bracket. An item may be a key and its value. -/
def flowItems (first : Bool) : Nat → Read (List NodeId)
  | 0 => refuse
  | fuel + 1 => do
    if ← takes .flowSequenceEnd then return []
    else
      if !first then expect .flowEntry
      if ← takes .key then
        let item ← collection ⟨none, none⟩ .map do
          let k ← unlessNext [.value, .flowEntry, .flowSequenceEnd] (node false false fuel)
          let v ← valueUnlessNext [.flowEntry, .flowSequenceEnd] (node false false fuel)
          return .mapping [(k, v)]
        return item :: (← flowItems false fuel)
      else if ← takes .flowSequenceEnd then return []
      else
        let item ← node false false fuel
        return item :: (← flowItems false fuel)

/-- The entries of a mapping up to its closing bracket. -/
def flowPairs (first : Bool) : Nat → Read (List Entry)
  | 0 => refuse
  | fuel + 1 => do
    if ← takes .flowMappingEnd then return []
    else
      if !first then expect .flowEntry
      if ← takes .key then
        let k ← unlessNext [.value, .flowEntry, .flowMappingEnd] (node false false fuel)
        let v ← valueUnlessNext [.flowEntry, .flowMappingEnd] (node false false fuel)
        return (k, v) :: (← flowPairs false fuel)
      else if ← takes .flowMappingEnd then return []
      else
        let k ← node false false fuel
        let v ← add none .empty
        return (k, v) :: (← flowPairs false fuel)

end

/-! ## The whole text -/

/-- The directives in front of a document. The version and the meaning of a handle are given at
most once. -/
def directives (versioned : Bool) : Nat → Read Unit
  | 0 => refuse
  | fuel + 1 => do
    match ← peek with
    | .directive d =>
      advance
      match d with
      | .version major =>
        if versioned || major != 1 then refuse else directives true fuel
      | .handle name stem =>
        if ((← get).handles.lookup name).isSome then refuse
        else
          modify fun r => { r with handles := (name, stem) :: r.handles }
          directives versioned fuel
      | .reserved => directives versioned fuel
    | _ => return

/-- A document with the directives in front of it. -/
def markedDocument (fuel : Nat) : Read NodeId := do
  modify fun r => { r with handles := [] }
  directives false fuel
  modify fun r => { r with handles := r.handles ++ defaultHandles }
  expect .documentStart
  match ← peek with
  | .directive _ | .documentStart | .documentEnd | .textEnd => add none .empty
  | _ => node true false fuel

/-- The only document of a text, if there is one. -/
def document (fuel : Nat) : Read (Option Document) := do
  match ← peek with
  | .textEnd => return none
  | t =>
    let root ← match t with
      | .directive _ | .documentStart => markedDocument fuel
      | _ => node true false fuel
    modify fun r => { r with tokens := r.tokens.dropWhile (· = .documentEnd) }
    expect .textEnd
    return some { nodes := (← get).nodes, root }

end Reading

/-- The only document that tokens describe, if there is one. A node takes a token or is read inside
one that does. -/
def Document.ofTokens? (ts : List Token) : Except Problem (Option Document) :=
  ((Reading.document (4 * ts.length + 4)).run
    { tokens := ts, handles := Reading.defaultHandles }).map Prod.fst

end Tftp.Yaml
