import Tftp.Yaml.Node

/-!
# Merging

The entries of a mapping under its merge keys stand for the entries of other mappings. These come
before the own entries, so that the own ones win; of several mappings the first wins.

A merged mapping is merged itself first. It may be one around the merging one: then the entries
that it has at that time are taken, without the merge keys that have been taken out of it.
-/

namespace Tftp.Yaml.Nodes

/-- Whether an entry stands for the entries of other mappings. -/
def isMerge (nodes : Nodes) (e : Entry) : Bool := nodes.tag e.1 == .merge

/-- How many entries of the nodes stand for the entries of other mappings. -/
def mergeCount (nodes : Nodes) : Nat :=
  (List.range nodes.size).foldl (fun n id => n + (nodes.entries id).countP nodes.isMerge) 0

/-- The default keys of entries become texts. -/
def nameDefaults (nodes : Nodes) (es : List Entry) : Nodes :=
  es.foldl (fun nodes e => if nodes.tag e.1 == .default then nodes.setTag e.1 .text else nodes)
    nodes

/-- A mapping gets entries in front of its own. -/
def prepend (nodes : Nodes) (id : NodeId) (front : List Entry) : Nodes :=
  let es := front ++ nodes.entries id
  (nodes.setContent id (.mapping es)).nameDefaults es

/-- The merge keys of a mapping are taken out one after the other, and the entries that they stand
for are put in front of the own entries in the end. Every step takes an entry away. -/
def mergeAfter : Nat → NodeId → List Entry → Nodes → Except Problem Nodes
  | 0, id, front, nodes => .ok (nodes.prepend id front)
  | fuel + 1, id, front, nodes =>
    match (nodes.entries id).span (!nodes.isMerge ·) with
    | (_, []) => .ok (nodes.prepend id front)
    | (before, (_, source) :: after) => do
      let nodes := nodes.setContent id (.mapping (before ++ after))
      match nodes.content source with
      | .scalar _ => .error .refused
      | .mapping _ =>
        let nodes ← mergeAfter fuel source [] nodes
        mergeAfter fuel id (front ++ nodes.entries source) nodes
      | .sequence items =>
        let (merged, nodes) ← items.foldlM (fun (merged, nodes) item => do
            match nodes.content item with
            | .mapping _ =>
              let nodes ← mergeAfter fuel item [] nodes
              return (nodes.entries item ++ merged, nodes)
            | _ => .error .refused) (([] : List Entry), nodes)
        mergeAfter fuel id (front ++ merged) nodes

/-- The nodes with the merge keys of a mapping taken out of it. -/
def merge (nodes : Nodes) (id : NodeId) : Except Problem Nodes :=
  if (nodes.entries id).any nodes.isMerge then mergeAfter nodes.mergeCount id [] nodes
  else .ok (nodes.prepend id [])

end Tftp.Yaml.Nodes
