import Tftp.Yaml.Tag

/-!
# Nodes

A document is made of nodes: scalars, sequences and mappings, each with a tag. A node may stand in
several places, and inside itself, so the nodes are numbered, and a collection has the numbers of
what it holds.

`Nodes` are the nodes of a document. A number that is given to no node is that of an empty one.
-/

namespace Tftp.Yaml

/-- The number of a node in its document. -/
abbrev NodeId := Nat

/-- A key of a mapping and its value. -/
abbrev Entry := NodeId × NodeId

/-- What is in a node. -/
inductive Content where
  | scalar (text : Codes)
  | sequence (items : List NodeId)
  | mapping (entries : List Entry)
  deriving DecidableEq, Repr, Inhabited

/-- A node of a document. -/
structure Node where
  tag : Tag
  content : Content
  deriving DecidableEq, Repr, Inhabited

/-- What stands where nothing is written. -/
def Node.empty : Node := { tag := .null, content := .scalar [] }

/-- The nodes of a document by their numbers. -/
abbrev Nodes := Array Node

namespace Nodes

/-- The node of a number. -/
def node (nodes : Nodes) (id : NodeId) : Node := nodes.getD id .empty

/-- The tag of a node. -/
def tag (nodes : Nodes) (id : NodeId) : Tag := (nodes.node id).tag

/-- What is in a node. -/
def content (nodes : Nodes) (id : NodeId) : Content := (nodes.node id).content

/-- The entries of a mapping. -/
def entries (nodes : Nodes) (id : NodeId) : List Entry :=
  match nodes.content id with
  | .mapping es => es
  | _ => []

/-- The nodes with a tag changed. -/
def setTag (nodes : Nodes) (id : NodeId) (tag : Tag) : Nodes :=
  nodes.modify id fun n => { n with tag }

/-- The nodes with something else in one of them. -/
def setContent (nodes : Nodes) (id : NodeId) (content : Content) : Nodes :=
  nodes.modify id fun n => { n with content }

end Nodes

end Tftp.Yaml
