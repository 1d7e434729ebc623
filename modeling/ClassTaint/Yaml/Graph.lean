import ClassTaint.Value

namespace ClassTaint.Yaml

/-! Collections that may hold each other, each under the place of its node, and
the values that they unfold to. -/

/-- What stands in a collection: a value, or the collection with a place. -/
inductive Part
  | scalar (value : Value)
  | collection (place : Nat)

inductive Collection
  | list (items : List Part)
  | mapping (pairs : Table Value Part)
  | set (members : List Value)

abbrev Graph := Table Nat Collection

namespace Collection

/-- The value of a collection, given that of each part of it. -/
def assemble {m : Type → Type} [Monad m] (member : Part → m Value) :
    Collection → m Value
  | list items => do
      let values ← items.mapM member
      pure (.list values)
  | mapping pairs => do
      let values ← pairs.mapM fun (key, part) => do
        let value ← member part
        pure (key, value)
      pure (.mapping values)
  | set members => pure (.set members)

def enclosing : Collection → Value
  | mapping _ => .enclosing .mapping
  | _ => .enclosing .list

end Collection

/-- The values of the collections that were found to hold no collection which
they are inside of, and whether the latest value holds none. -/
structure Unfolding where
  closed : Table Nat Value
  isClosed : Bool

abbrev Unfold := StateM Unfolding

namespace Graph

/-- The value of a part inside the collections with the given places. A value
that holds none of them is the same everywhere and is unfolded once. -/
def unfold (graph : Graph) : Nat → List Nat → Part → Unfold Value
  | _, _, .scalar value => pure value
  | 0, _, .collection _ => pure .null
  | bound + 1, path, .collection place => do
      let outer ← get
      match outer.closed.get? place, graph.get? place with
      | some value, _ => pure value
      | none, none => pure .null
      | none, some collection =>
          if path.contains place then do
            set { outer with isClosed := false }
            pure collection.enclosing
          else do
            set { outer with isClosed := true }
            let value ←
              collection.assemble (graph.unfold bound (place :: path))
            let inner ← get
            let closed :=
              if inner.isClosed then inner.closed.put place value
              else inner.closed
            set (⟨closed, outer.isClosed && inner.isClosed⟩ : Unfolding)
            pure value

/-- The value of a part whose outer levels do not count as collections that what
they hold may be inside of. -/
def outline (graph : Graph) : Nat → Part → Unfold Value
  | 0, part => graph.unfold (graph.length + 1) [] part
  | _, .scalar value => pure value
  | levels + 1, .collection place =>
      match graph.get? place with
      | none => pure .null
      | some collection => collection.assemble (graph.outline levels)

/-- The value of a document: it and the rules in it are looked into, and their
entries are whole values. -/
def value (graph : Graph) (root : Part) : Value :=
  (graph.outline 2 root ⟨[], true⟩).1

end Graph

end ClassTaint.Yaml
