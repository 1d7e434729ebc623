import ClassTaint.Yaml.Tag

namespace ClassTaint.Yaml

/-! The nodes of a document. Each has a place of its own, by which it is told
apart from nodes that look the same, and a reference stands for the node of its
anchor. -/

inductive Node
  | scalar (place : Nat) (tag : Tag) (text : String)
  | sequence (place : Nat) (tag : Tag) (items : List Node)
  | mapping (place : Nat) (tag : Tag) (pairs : List (Node × Node))
  | reference (name : String)

/-- The place and the tag of a node. References have none of their own. -/
def Node.mark? : Node → Option (Nat × Tag)
  | .scalar place tag _ => some (place, tag)
  | .sequence place tag _ => some (place, tag)
  | .mapping place tag _ => some (place, tag)
  | .reference _ => none

/-- A document with the nodes that have an anchor. The size is the number of its
nodes. -/
structure Document where
  root : Node
  anchored : List (String × Node)
  size : Nat

/-- The node itself, or the one that it refers to. -/
def Document.target (document : Document) : Node → Node
  | .reference name =>
      match document.anchored.lookup name with
      | some node => node
      | none => .reference name
  | node => node

end ClassTaint.Yaml
