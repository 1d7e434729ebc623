import ClassTaint.Table
import ClassTaint.Yaml.Node

namespace ClassTaint.Yaml

/-! How merge keys and value marks change the nodes of a document. A mapping that
is looked into gets the pairs that its merge keys name, and value marks among its
keys become texts. Whoever refers to these nodes later finds them changed. -/

/-- The places of the keys that have become texts, and the pairs of the mappings
that are not as they were written. -/
structure Revision where
  texts : List Nat
  pairs : Table Nat (List (Node × Node))

/-- The first pair with a merge key, and those before and behind it. -/
def splitAtMerge (document : Document) :
    List (Node × Node) →
      Option (List (Node × Node) × Node × List (Node × Node))
  | [] => none
  | (key, value) :: rest =>
      match (document.target key).mark? with
      | some (_, .merge) => some ([], value, rest)
      | _ =>
          (splitAtMerge document rest).map fun (before, merged, after) =>
            ((key, value) :: before, merged, after)

/-- The places of the keys that are value marks. -/
def valueMarks (document : Document) (pairs : List (Node × Node)) : List Nat :=
  pairs.filterMap fun (key, _) =>
    match (document.target key).mark? with
    | some (place, .value) => some place
    | _ => none

namespace Revision

def unchanged : Revision :=
  ⟨[], []⟩

/-- The place and the tag of a node as they are now. -/
def mark? (revision : Revision) (node : Node) : Option (Nat × Tag) :=
  node.mark?.map fun (place, tag) =>
    if tag = .value ∧ revision.texts.contains place then (place, .text)
    else (place, tag)

/-- The pairs that a mapping at a place, written with the given ones, has now. -/
def pairsAt (revision : Revision) (place : Nat)
    (written : List (Node × Node)) : List (Node × Node) :=
  (revision.pairs.get? place).getD written

def setPairs (place : Nat) (pairs : List (Node × Node))
    (revision : Revision) : Revision :=
  { revision with pairs := revision.pairs.put place pairs }

/-- Replaces the merge keys of a mapping, one after the other, by the pairs of
the mappings that they name, which come before all others. Of several mappings
in one list the first has the last word. A mapping that is merged into itself
gives the pairs that it has by then. Each step takes a merge key away, so the size
of the document bounds their number. -/
def merge (document : Document) : Nat → List (Node × Node) → Nat →
    List (Node × Node) → Revision → Except Fault Revision
  | 0, _, _, _, _ => .error .malformed
  | bound + 1, brought, place, written, revision => do
      let pairs := revision.pairsAt place written
      match splitAtMerge document pairs with
      | none =>
          let revision := revision.setPairs place (brought ++ pairs)
          pure { revision with
            texts := valueMarks document pairs ++ revision.texts }
      | some (before, merged, after) => do
          let bring (node : Node) (revision : Revision) :
              Except Fault (List (Node × Node) × Revision) :=
            match document.target node with
            | .mapping place _ written => do
                let revision ← merge document bound [] place written revision
                pure (revision.pairsAt place written, revision)
            | _ => .error .malformed
          let revision := revision.setPairs place (before ++ after)
          let (more, revision) ←
            match document.target merged with
            | .sequence _ _ items =>
                items.foldlM (fun (later, revision) item => do
                  let (pairs, revision) ← bring item revision
                  pure (pairs ++ later, revision)) ([], revision)
            | node => bring node revision
          merge document bound (brought ++ more) place written revision

end Revision

end ClassTaint.Yaml
