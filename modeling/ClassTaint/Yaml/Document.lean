import ClassTaint.Yaml.Graph
import ClassTaint.Yaml.Revision
import ClassTaint.Yaml.Scalar.Content

namespace ClassTaint.Yaml

/-! The value of a document. Its collections are looked into level by level from
the outside in, each once, in the order in which they are met. Of several faults
the first one counts. -/

inductive CollectionKind
  | list
  | mapping
  | set
  deriving DecidableEq, Repr

/-- The order in which the members of a set are gone through, given the one in which
they are written. It is up to the run, and loses none of them. -/
structure SetOrder where
  arrange : List Value → List Value
  isPerm (members : List Value) : (arrange members).Perm members

def SetOrder.written : SetOrder :=
  ⟨id, .refl⟩

def Tag.collection? : Tag → Option CollectionKind
  | .list => some .list
  | .mapping => some .mapping
  | .set => some .set
  | _ => none

/-- A collection that was met but not looked into. -/
structure Met where
  place : Nat
  kind : CollectionKind
  node : Node

/-- What is known of a document: how its nodes have changed, the values of the
mappings in it that stand for scalars, the places of the collections met, those
of the next level, newest first, and the collections looked into. -/
structure Survey where
  revision : Revision
  values : Table Nat Value
  places : List Nat
  met : List Met
  graph : Graph

namespace Survey

def start : Survey :=
  ⟨.unchanged, [], [], [], []⟩

def meet (collection : Met) (survey : Survey) : Survey :=
  if survey.places.contains collection.place then
    survey
  else
    { survey with
      places := collection.place :: survey.places
      met := collection :: survey.met }

end Survey

namespace Document

/-- The text of a scalar. A mapping with a value mark among its keys stands for
the scalar behind the first of them, and may come back to itself. -/
def scalarText (document : Document) (revision : Revision) :
    Nat → Node → Except Fault String
  | 0, _ => .error .tooDeep
  | bound + 1, node =>
      match document.target node with
      | .scalar _ _ text => .ok text
      | .mapping place _ written =>
          let pairs := revision.pairsAt place written
          match pairs.find? fun (key, _) =>
              (revision.mark? (document.target key)).any (·.2 = .value) with
          | some (_, value) => document.scalarText revision bound value
          | none => .error .malformed
      | _ => .error .malformed

/-- The value of a node with a tag for scalars. That of a mapping stays as it is
when it is first met. -/
def readScalar (document : Document) (place : Nat) (tag : Tag) (node : Node)
    (survey : Survey) : Except Fault (Value × Survey) :=
  match node, survey.values.get? place with
  | .scalar _ _ text, _ => do
      let value ← scalarValue tag place text.toList
      pure (value, survey)
  | _, some value => .ok (value, survey)
  | _, none => do
      let text ←
        document.scalarText survey.revision (document.size + 1) node
      if tag = .timestamp then
        throw .dateContent
      let value ← scalarValue tag place text.toList
      pure (value, { survey with values := survey.values.put place value })

/-- What a node is: a scalar with its value, or a collection, which is met. -/
def look (document : Document) (node : Node) (survey : Survey) :
    Except Fault (Part × Survey) :=
  let node := document.target node
  match survey.revision.mark? node with
  | none => .error .malformed
  | some (place, tag) =>
      match tag.collection? with
      | some kind =>
          .ok (.collection place, survey.meet ⟨place, kind, node⟩)
      | none =>
          if tag.hasScalars then do
            let (value, survey) ← document.readScalar place tag node survey
            pure (.scalar value, survey)
          else
            .error .malformed

def lookItems (document : Document) :
    List Node → Survey → Except Fault (List Part × Survey)
  | [], survey => .ok ([], survey)
  | item :: rest, survey => do
      let (part, survey) ← document.look item survey
      let (parts, survey) ← document.lookItems rest survey
      pure (part :: parts, survey)

/-- No collection can be a key. -/
def lookPairs (document : Document) :
    List (Node × Node) → Survey → Except Fault (List (Value × Part) × Survey)
  | [], survey => .ok ([], survey)
  | (key, value) :: rest, survey => do
      match ← document.look key survey with
      | (.collection _, _) => throw .malformed
      | (.scalar key, survey) => do
          let (part, survey) ← document.look value survey
          let (pairs, survey) ← document.lookPairs rest survey
          pure ((key, part) :: pairs, survey)

def mergedPairs (document : Document) (node : Node) (survey : Survey) :
    Except Fault (List (Value × Part) × Survey) :=
  match node with
  | .mapping place _ written => do
      let revision ← Revision.merge document (document.size + 1) [] place
        written survey.revision
      document.lookPairs (revision.pairsAt place written)
        { survey with revision }
  | _ => .error .malformed

/-- Looks into a collection. Later values replace earlier ones. -/
def lookInto (document : Document) (order : SetOrder) (met : Met) (survey : Survey) :
    Except Fault Survey := do
  let (collection, survey) ←
    match met.kind, met.node with
    | .list, .sequence _ _ items => do
        let (parts, survey) ← document.lookItems items survey
        pure (Collection.list parts, survey)
    | .list, _ => throw .malformed
    | .mapping, node => do
        let (pairs, survey) ← document.mergedPairs node survey
        pure (.mapping (Table.ofEntries pairs), survey)
    | .set, node => do
        let (pairs, survey) ← document.mergedPairs node survey
        pure (.set (order.arrange (Table.ofEntries pairs).keys), survey)
  pure { survey with graph := survey.graph.put met.place collection }

def lookIntoLevels (document : Document) (order : SetOrder) :
    Nat → Survey → Except Fault Survey
  | 0, survey => .ok survey
  | bound + 1, survey =>
      match survey.met.reverse with
      | [] => .ok survey
      | level => do
          let survey ← level.foldlM
            (fun survey met => document.lookInto order met survey)
            { survey with met := [] }
          document.lookIntoLevels order bound survey

def value (document : Document) (order : SetOrder) : Except Fault Value := do
  let (root, survey) ← document.look document.root .start
  let survey ← document.lookIntoLevels order (document.size + 1) survey
  pure (survey.graph.value root)

end Document

end ClassTaint.Yaml
