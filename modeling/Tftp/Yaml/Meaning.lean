import Tftp.Config.Layers
import Tftp.Value.SetOrder
import Tftp.Yaml.Document
import Tftp.Yaml.Merge
import Tftp.Yaml.Tag.Value

/-!
# The value of a document

A node is turned into a value as its tag says.

* **Order.** A scalar has its value at once. A collection has its items later, when those of the
  collections that were met before it are known; of several problems the first one met is reported.
* **Mappings.** A key that is given twice keeps its place and has the later value. A collection
  cannot be a key.
* **Defaults.** A mapping that is tagged as a scalar is the scalar under its default key.
* **Aliases.** A node has one value, wherever it stands. Collections that lead to themselves are
  told apart from the others in the end (`Known.settle`).

`Yaml.read` gives the value of a text.
-/

namespace Tftp.Yaml

/-! ## Scalars -/

namespace Nodes

/-- The text of a node, which a mapping has under its default key. A node that stands for itself
has none. -/
def text (nodes : Nodes) : Nat → NodeId → Except Problem Codes
  | 0, _ => .error .tooDeep
  | fuel + 1, id =>
    match nodes.content id with
    | .scalar text => .ok text
    | .sequence _ => .error .refused
    | .mapping es =>
      match es.find? fun e => nodes.tag e.1 == .default with
      | some e => nodes.text fuel e.2
      | none => .error .refused

/-- The value of a node that is tagged as a scalar. A time must be a text itself. -/
def scalarValue (nodes : Nodes) (id : NodeId) : Except Problem Value := do
  let tag := nodes.tag id
  if !tag.isScalar then throw .refused
  let text ← nodes.text nodes.size id
  match tag, nodes.content id with
  | .timestamp, .mapping _ => throw .notText
  | _, _ => tag.value text

/-- Whether the text of a node is the word for what is not a number. -/
def isNanWord (nodes : Nodes) (id : NodeId) : Bool :=
  match nodes.text nodes.size id with
  | .ok text => (text.toChars?.map Number.isNanWord).getD false
  | .error _ => false

end Nodes

/-! ## Values -/

/-- What is known of the values of a document. -/
structure Known where
  nodes : Nodes
  /-- the values of the nodes that were met, which for a collection is its number -/
  values : Array (Option Value)
  /-- the collections of which the items are known, the last one first -/
  filled : List (NodeId × Value) := []
  /-- the collections that were met and have no items yet, the last one first -/
  met : List NodeId := []

namespace Known

/-- Finding of values. -/
abbrev Find := StateT Known (Except Problem)

/-- The value of a node. The items of a collection are found later. -/
def valueOf (id : NodeId) : Find Value := do
  let k ← get
  match k.values.getD id none with
  | some v => return v
  | none =>
    let isCollection := (k.nodes.tag id).isCollection
    let v ← if isCollection then pure (.part id) else k.nodes.scalarValue id
    set { k with
      values := k.values.setIfInBounds id (some v)
      met := if isCollection then id :: k.met else k.met }
    return v

/-- A key of a mapping, with a mark. What is not a number is the same key only with the same mark:
it is written in one way that always means the same, and otherwise is the same only as the same
node. -/
structure Key where
  value : Value
  mark : Nat

/-- Whether two keys are the same. -/
def Key.same (k l : Key) : Bool :=
  match k.value with
  | .float .nan => l.value.same k.value && k.mark == l.mark
  | v => v.same l.value

/-- The key that a node is. -/
def keyOf (id : NodeId) : Find Key := do
  match ← valueOf id with
  | .part _ => throw .refused
  | value =>
    return { value, mark := if (← get).nodes.isNanWord id then 0 else id + 1 }

/-- The entries with a key set. A key that was there keeps its place. -/
def insert (es : List (Key × Value)) (key : Key) (value : Value) : List (Key × Value) :=
  if es.any (·.1.same key) then es.map fun e => if e.1.same key then (e.1, value) else e
  else es ++ [(key, value)]

/-- The entries of a mapping. -/
def entriesOf (id : NodeId) : Find Entries := do
  let k ← get
  let nodes ← k.nodes.merge id
  set { k with nodes }
  let es ← (nodes.entries id).foldlM (fun es e => do
    let key ← keyOf e.1
    let value ← valueOf e.2
    return insert es key value) []
  return es.map fun (k, v) => (k.value, v)

/-- The pair that a mapping with a single entry stands for. -/
def pairOf (id : NodeId) : Find Value := do
  match (← get).nodes.content id with
  | .mapping [(k, v)] => return .tuple [← valueOf k, ← valueOf v]
  | _ => throw .refused

/-- The items of a collection are found. -/
def fill (id : NodeId) : Find Unit := do
  let n := (← get).nodes.node id
  let v ← match n.tag, n.content with
    | .sequence, .sequence items => Value.list <$> items.mapM valueOf
    | .orderedMap, .sequence items | .pairs, .sequence items => Value.list <$> items.mapM pairOf
    | .map, .mapping _ => Value.map <$> entriesOf id
    | .set, .mapping _ => (fun es => .set (Value.inSetOrder (es.map Prod.fst))) <$> entriesOf id
    | _, _ => throw .refused
  modify fun k => { k with filled := (id, v) :: k.filled }

/-- The items of all collections that were met are found, then those of the collections among the
items. -/
def fillAll : Nat → Find Unit
  | 0 => return
  | fuel + 1 => do
    let met := (← get).met
    if met.isEmpty then return
    else
      modify fun k => { k with met := [] }
      met.reverse.forM fill
      fillAll fuel

/-! ## Collections that lead to themselves -/

/-- What a collection stands for: its value if it has one. -/
def meaning (settled : Array (Option Value)) (id : NodeId) : Value :=
  (settled.getD id none).getD (.part id)

/-- Collections of which all items have values get values themselves, and the others are left. -/
def settleOnce (settled : Array (Option Value)) (left : List (NodeId × Value)) :
    Array (Option Value) × List (NodeId × Value) :=
  left.foldr (fun (id, v) (settled, left) =>
    if v.parts.all fun i => (settled.getD i none).isSome then
      (settled.setIfInBounds id (some (v.close (meaning settled))), left)
    else (settled, (id, v) :: left)) (settled, [])

/-- Collections get values as long as they do not lead to themselves. The others are left. -/
def settle : Nat → Array (Option Value) → List (NodeId × Value) →
    Array (Option Value) × List (NodeId × Value)
  | 0, settled, left => (settled, left)
  | fuel + 1, settled, left =>
    let (settled, rest) := settleOnce settled left
    if rest.length < left.length then settle fuel settled rest else (settled, rest)

/-- The value of a node, with the collections in it. -/
def result (k : Known) (v : Value) : Value :=
  let (settled, left) :=
    settle k.filled.length (Array.replicate k.nodes.size none) k.filled.reverse
  match v with
  | .part id =>
    match settled.getD id none with
    | some v => v
    | none => .cyclic (left.map fun (i, v) => (i, v.close (meaning settled))) id
  | v => v

end Known

/-- The value of a document. -/
def Document.value (d : Document) : Except Problem Value := do
  let find : Known.Find Value := do
    let v ← Known.valueOf d.root
    Known.fillAll d.nodes.size
    return v
  let (v, k) ← find.run { nodes := d.nodes, values := Array.replicate d.nodes.size none }
  return k.result v

/-- The value of a text. A text without a document is null. -/
def read (text : String) : Except Problem Value := do
  let cs := text.toList
  if !cs.all isAllowed then .error .refused
  else
    match ← Document.ofTokens? (tokens cs) with
    | none => return .null
    | some d => d.value

example : ((read "&a [1, *a]").map Value.literal).toOption = some "[1, [...]]" := by
  decide +kernel

example : ((read "- &a\n  1: 2\n  3: 4\n- <<: *a\n  1: 5\n").map Value.literal).toOption =
    some "[\x7b1: 2, 3: 4\x7d, \x7b1: 5, 3: 4\x7d]" := by
  decide +kernel

end Tftp.Yaml
