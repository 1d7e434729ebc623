import ClassTaint.Nesting
import ClassTaint.Yaml.Node
import ClassTaint.Yaml.Rule
import ClassTaint.Yaml.Token

namespace ClassTaint.Yaml

/-! From tokens to nodes. Each anchor is declared once and before its references,
which may stand inside the anchored node. -/

/-- The tokens that are left and the fault behind them, the number of nodes met so
far and that of the collections that are open, the anchors met so far, and the
anchored nodes that are complete. -/
structure Progress where
  tokens : List Token
  ending : Fault
  nodes : Nat
  depth : Nat
  declared : List String
  anchored : List (String × Node)

namespace Progress

def start (tokens : List Token) (ending : Fault) : Progress :=
  ⟨tokens, ending, 0, 0, [], []⟩

def go (tokens : List Token) (progress : Progress) : Progress :=
  { progress with tokens }

def enter (tokens : List Token) (progress : Progress) : Except Fault Progress :=
  if progress.depth < deepestNesting then
    .ok { progress with
      tokens
      nodes := progress.nodes + 1
      depth := progress.depth + 1 }
  else
    .error .tooDeep

def leave (progress : Progress) : Progress :=
  { progress with depth := progress.depth - 1 }

def declare (anchor : Option String) (progress : Progress) :
    Except Fault Progress :=
  match anchor with
  | none => .ok progress
  | some name =>
      if progress.declared.contains name then .error .malformed
      else .ok { progress with declared := name :: progress.declared }

def record (anchor : Option String) (node : Node) (progress : Progress) :
    Progress :=
  match anchor with
  | none => progress
  | some name =>
      { progress with anchored := (name, node) :: progress.anchored }

end Progress

structure Conventions where
  rules : List Rule
  handles : List (String × String)

/-- What is said about the tag of a node: nothing, that it is left open, or a
tag. -/
inductive StatedTag
  | absent
  | free
  | named (tag : Tag)
  deriving DecidableEq, Repr

namespace Conventions

/-- A handle has to be known. -/
def stated (conventions : Conventions) :
    Option WrittenTag → Except Fault StatedTag
  | none => .ok .absent
  | some written =>
      if written.isOpen then
        .ok .free
      else
        match written.handle with
        | none => .ok (.named (.ofName written.rest))
        | some handle =>
            match conventions.handles.lookup handle with
            | some start => .ok (.named (.ofName (start ++ written.rest)))
            | none => .error .malformed

/-- Scalars without a tag are looked at if they are plain, and are texts
otherwise. -/
def scalarTag (conventions : Conventions) (stated : StatedTag) (plain : Bool)
    (text : String) : Tag :=
  match stated with
  | .named tag => tag
  | .free => resolve conventions.rules text.toList
  | .absent =>
      if plain then resolve conventions.rules text.toList else .text

def scalar (conventions : Conventions) (stated : StatedTag) (plain : Bool)
    (text : String) (progress : Progress) : Node × Progress :=
  (.scalar progress.nodes (conventions.scalarTag stated plain text) text,
    { progress with nodes := progress.nodes + 1 })

/-- What stands where a node is left out. -/
def empty (conventions : Conventions) (progress : Progress) : Node × Progress :=
  conventions.scalar .absent true "" progress

end Conventions

def StatedTag.orElse (standard : Tag) : StatedTag → Tag
  | named tag => tag
  | _ => standard

structure Properties where
  anchor : Option String
  tag : Option WrittenTag

def readProperties (tokens : List Token) : Properties × List Token :=
  match tokens with
  | .anchor name :: .tag tag :: rest => (⟨some name, some tag⟩, rest)
  | .anchor name :: rest => (⟨some name, none⟩, rest)
  | .tag tag :: .anchor name :: rest => (⟨some name, some tag⟩, rest)
  | .tag tag :: rest => (⟨none, some tag⟩, rest)
  | _ => (⟨none, none⟩, tokens)

/-- Where a node may stand: in flow, in a block, or in a block as a part of a
mapping, whose sequences need no indentation. -/
inductive Setting
  | flow
  | block
  | mappingPart
  deriving DecidableEq, Repr

mutual

/-- Behind a tag an anchor may follow, so that one more token is asked for before
the tag is looked at. -/
def readNode (conventions : Conventions) (setting : Setting) :
    Nat → Progress → Except Fault (Node × Progress)
  | 0, _ => .error .malformed
  | bound + 1, progress =>
      match progress.tokens with
      | [] | [.tag _] => .error progress.ending
      | .reference name :: rest =>
          if progress.declared.contains name then
            .ok (.reference name, progress.go rest)
          else
            .error .malformed
      | tokens => do
          let (properties, rest) := readProperties tokens
          let stated ← conventions.stated properties.tag
          if rest.isEmpty then
            throw progress.ending
          let progress ← (progress.go rest).declare properties.anchor
          let optional := properties.anchor.isSome || properties.tag.isSome
          let (node, progress) ←
            readContent conventions setting optional stated bound progress
          pure (node, progress.record properties.anchor node)

/-- Behind an anchor or a tag the content itself may be missing. -/
def readContent (conventions : Conventions) (setting : Setting)
    (optional : Bool) (stated : StatedTag) :
    Nat → Progress → Except Fault (Node × Progress)
  | 0, _ => .error .malformed
  | bound + 1, progress =>
      let place := progress.nodes
      let missing : Except Fault (Node × Progress) :=
        if optional then
          .ok (conventions.scalar stated true "" progress)
        else
          .error .malformed
      let sequence (items : List Node) (progress : Progress) :=
        (Node.sequence place (stated.orElse .list) items, progress.leave)
      let mapping (pairs : List (Node × Node)) (progress : Progress) :=
        (Node.mapping place (stated.orElse .mapping) pairs, progress.leave)
      match progress.tokens with
      | .scalar text plain :: rest =>
          .ok (conventions.scalar stated plain text (progress.go rest))
      | .flowSequenceStart :: rest => do
          let (items, progress) ←
            readFlowItems conventions true bound (← progress.enter rest)
          pure (sequence items progress)
      | .flowMappingStart :: rest => do
          let (pairs, progress) ←
            readFlowPairs conventions true bound (← progress.enter rest)
          pure (mapping pairs progress)
      | .blockSequenceStart :: rest =>
          if setting = .flow then
            missing
          else do
            let (items, progress) ←
              readBlockItems conventions bound (← progress.enter rest)
            pure (sequence items progress)
      | .blockMappingStart :: rest =>
          if setting = .flow then
            missing
          else do
            let (pairs, progress) ←
              readBlockPairs conventions bound (← progress.enter rest)
            pure (mapping pairs progress)
      | .blockEntry :: rest =>
          if setting = .mappingPart then do
            let (items, progress) ← readPlainItems conventions bound
              (← progress.enter (.blockEntry :: rest))
            pure (sequence items progress)
          else
            missing
      | _ => missing

/-- An entry of a collection, which is empty before some of the tokens. -/
def readEntry (conventions : Conventions) (setting : Setting)
    (emptyBefore : List Token) : Nat → Progress → Except Fault (Node × Progress)
  | 0, _ => .error .malformed
  | bound + 1, progress =>
      if progress.tokens.head?.any emptyBefore.contains then
        .ok (conventions.empty progress)
      else
        readNode conventions setting bound progress

def readValue (conventions : Conventions) (setting : Setting)
    (emptyBefore : List Token) : Nat → Progress → Except Fault (Node × Progress)
  | 0, _ => .error .malformed
  | bound + 1, progress =>
      match progress.tokens with
      | [] => .error progress.ending
      | .value :: rest =>
          readEntry conventions setting emptyBefore bound (progress.go rest)
      | _ => .ok (conventions.empty progress)

def readBlockItems (conventions : Conventions) :
    Nat → Progress → Except Fault (List Node × Progress)
  | 0, _ => .error .malformed
  | bound + 1, progress =>
      match progress.tokens with
      | [] => .error progress.ending
      | .blockEntry :: rest => do
          let (item, progress) ← readEntry conventions .block
            [.blockEntry, .blockEnd] bound (progress.go rest)
          let (items, progress) ← readBlockItems conventions bound progress
          pure (item :: items, progress)
      | .blockEnd :: rest => .ok ([], progress.go rest)
      | _ => .error .malformed

/-- The items of a sequence that shares the indentation of its mapping. -/
def readPlainItems (conventions : Conventions) :
    Nat → Progress → Except Fault (List Node × Progress)
  | 0, _ => .error .malformed
  | bound + 1, progress =>
      match progress.tokens with
      | [] => .error progress.ending
      | .blockEntry :: rest => do
          let (item, progress) ← readEntry conventions .block
            [.blockEntry, .key, .value, .blockEnd] bound (progress.go rest)
          let (items, progress) ← readPlainItems conventions bound progress
          pure (item :: items, progress)
      | _ => .ok ([], progress)

def readBlockPairs (conventions : Conventions) :
    Nat → Progress → Except Fault (List (Node × Node) × Progress)
  | 0, _ => .error .malformed
  | bound + 1, progress =>
      match progress.tokens with
      | [] => .error progress.ending
      | .key :: rest => do
          let (key, progress) ← readEntry conventions .mappingPart
            [.key, .value, .blockEnd] bound (progress.go rest)
          let (value, progress) ← readValue conventions .mappingPart
            [.key, .value, .blockEnd] bound progress
          let (pairs, progress) ← readBlockPairs conventions bound progress
          pure ((key, value) :: pairs, progress)
      | .blockEnd :: rest => .ok ([], progress.go rest)
      | _ => .error .malformed

/-- Reads up to the closing bracket. A comma stands between two items and may
stand behind the last one. -/
def readFlowItems (conventions : Conventions) (first : Bool) :
    Nat → Progress → Except Fault (List Node × Progress)
  | 0, _ => .error .malformed
  | bound + 1, progress =>
      match progress.tokens, first with
      | [], _ => .error progress.ending
      | .flowSequenceEnd :: rest, _ => .ok ([], progress.go rest)
      | .flowEntry :: .flowSequenceEnd :: rest, false =>
          .ok ([], progress.go rest)
      | .flowEntry :: rest, false =>
          readFlowItem conventions bound (progress.go rest)
      | _, true => readFlowItem conventions bound progress
      | _, false => .error .malformed

/-- Reads an item and those behind it. A key makes the item a mapping of one
pair. -/
def readFlowItem (conventions : Conventions) :
    Nat → Progress → Except Fault (List Node × Progress)
  | 0, _ => .error .malformed
  | bound + 1, progress => do
      let (item, progress) ←
        match progress.tokens with
        | .key :: rest => do
            let place := progress.nodes
            let (key, progress) ← readEntry conventions .flow
              [.value, .flowEntry, .flowSequenceEnd] bound
              (← progress.enter rest)
            let (value, progress) ← readValue conventions .flow
              [.flowEntry, .flowSequenceEnd] bound progress
            pure (.mapping place .mapping [(key, value)], progress.leave)
        | _ => readNode conventions .flow bound progress
      let (items, progress) ← readFlowItems conventions false bound progress
      pure (item :: items, progress)

def readFlowPairs (conventions : Conventions) (first : Bool) :
    Nat → Progress → Except Fault (List (Node × Node) × Progress)
  | 0, _ => .error .malformed
  | bound + 1, progress =>
      match progress.tokens, first with
      | [], _ => .error progress.ending
      | .flowMappingEnd :: rest, _ => .ok ([], progress.go rest)
      | .flowEntry :: .flowMappingEnd :: rest, false =>
          .ok ([], progress.go rest)
      | .flowEntry :: rest, false =>
          readFlowPair conventions bound (progress.go rest)
      | _, true => readFlowPair conventions bound progress
      | _, false => .error .malformed

/-- Reads a pair and those behind it. A node alone is a key with an empty value. -/
def readFlowPair (conventions : Conventions) :
    Nat → Progress → Except Fault (List (Node × Node) × Progress)
  | 0, _ => .error .malformed
  | bound + 1, progress => do
      let (pair, progress) ←
        match progress.tokens with
        | .key :: rest => do
            let (key, progress) ← readEntry conventions .flow
              [.value, .flowEntry, .flowMappingEnd] bound (progress.go rest)
            let (value, progress) ← readValue conventions .flow
              [.flowEntry, .flowMappingEnd] bound progress
            pure ((key, value), progress)
        | _ => do
            let (key, progress) ← readNode conventions .flow bound progress
            let (value, progress) := conventions.empty progress
            pure ((key, value), progress)
      let (pairs, progress) ← readFlowPairs conventions false bound progress
      pure (pair :: pairs, progress)

end

def standardHandles : List (String × String) :=
  [("!", "!"), ("!!", standardTagStart)]

def isDirective (token : Token) : Bool :=
  token matches .directive _

/-- The handles that directives declare, each once, and the tokens behind them.
At most one directive names a version, and only those numbered one are read. -/
def readDirectives : Bool → List (String × String) → TokenStream →
    Except Fault (List (String × String) × List Token)
  | _, _, ⟨[], ending⟩ => .error ending
  | versioned, handles, ⟨.directive directive :: rest, ending⟩ =>
      match directive with
      | .version major =>
          if versioned || major != 1 then .error .malformed
          else readDirectives true handles ⟨rest, ending⟩
      | .handle name start =>
          if (handles.lookup name).isSome then .error .malformed
          else readDirectives versioned ((name, start) :: handles) ⟨rest, ending⟩
      | .reserved => readDirectives versioned handles ⟨rest, ending⟩
  | _, handles, ⟨tokens, _⟩ => .ok (handles, tokens)

/-- Reads the tokens up to the start of a document, and the conventions that they
set for it. -/
def readStart (rules : List Rule) (stream : TokenStream) :
    Except Fault (Conventions × List Token) := do
  let (declared, rest) ← readDirectives false [] stream
  match rest with
  | .documentStart :: rest => pure (⟨rules, declared ++ standardHandles⟩, rest)
  | _ => throw .malformed

def readRoot (rules : List Rule) (stream : TokenStream) :
    Except Fault (Node × Progress) :=
  let bound := 4 * stream.tokens.length + 4
  if stream.tokens.head?.any fun token =>
      token == .documentStart || isDirective token then do
    let (conventions, rest) ← readStart rules stream
    let progress := Progress.start rest stream.ending
    if rest.head?.any fun token =>
        [.documentStart, .documentEnd, .streamEnd].contains token ||
          isDirective token then
      pure (conventions.empty progress)
    else
      readNode conventions .block bound progress
  else
    readNode ⟨rules, standardHandles⟩ .block bound
      (.start stream.tokens stream.ending)

/-- Nothing may stand behind the only document of a text. What is met there
first, up to the start of a second document, says why it cannot be read. -/
def checkEnd (rules : List Rule) (stream : TokenStream) : Except Fault Unit :=
  match stream.tokens with
  | [] => .error stream.ending
  | tokens =>
      let rest := tokens.dropWhile (· == .documentEnd)
      if rest = [.streamEnd] then
        .ok ()
      else do
        let _ ← readStart rules ⟨rest, stream.ending⟩
        throw .malformed

/-- Reads the only document of a text, or nothing where there is none. -/
def Document.ofTokens (rules : List Rule) (stream : TokenStream) :
    Except Fault (Option Document) :=
  match stream.tokens with
  | .streamEnd :: _ => .ok none
  | _ => do
      let (root, progress) ← readRoot rules stream
      checkEnd rules ⟨progress.tokens, progress.ending⟩
      pure (some ⟨root, progress.anchored, progress.nodes⟩)

end ClassTaint.Yaml
