import ClassTaint.Yaml.Cursor
import ClassTaint.Yaml.Scalar.Plain
import ClassTaint.Yaml.Scalar.Quoted
import ClassTaint.Yaml.Token

namespace ClassTaint.Yaml

/-! From text to tokens. A scalar or a flow collection may turn out to be a
mapping key only when the colon behind it is met, so each flow level remembers
the last place at which such a key may have started. -/

/-- The start of a possible key: the number of tokens before it and its place. A
key is required where nothing else can stand. -/
structure Candidate where
  tokensBefore : Nat
  required : Bool
  index : Nat
  line : Nat
  column : Nat
  deriving DecidableEq, Repr

/-- A simple key stays on its line and is at most 1024 characters long. -/
def Candidate.isStale (candidate : Candidate) (cursor : Cursor) : Bool :=
  candidate.line != cursor.line || candidate.index + 1024 < cursor.index

/-- Tokens are held newest first, and so are the columns of the open block
collections and the candidates of the enclosing flow levels. -/
structure Scanner where
  cursor : Cursor
  tokens : List Token
  columns : List Nat
  candidate : Option Candidate
  enclosing : List (Option Candidate)
  keyAllowed : Bool
  deriving DecidableEq, Repr

namespace Scanner

def start (text : List Char) : Scanner where
  cursor := Cursor.start text
  tokens := []
  columns := []
  candidate := none
  enclosing := []
  keyAllowed := true

def inFlow (scanner : Scanner) : Bool :=
  !scanner.enclosing.isEmpty

def push (token : Token) (scanner : Scanner) : Scanner :=
  { scanner with tokens := token :: scanner.tokens }

def skip (count : Nat) (scanner : Scanner) : Scanner :=
  { scanner with cursor := scanner.cursor.skip count }

def skipTo (rest : List Char) (scanner : Scanner) : Scanner :=
  { scanner with cursor := scanner.cursor.skipTo rest }

def allowKey (allowed : Bool) (scanner : Scanner) : Scanner :=
  { scanner with keyAllowed := allowed }

/-- The column from which on the next scalar or collection is nested. -/
def innerColumn (scanner : Scanner) : Nat :=
  match scanner.columns with
  | [] => 0
  | column :: _ => column + 1

/-- The number of characters before the next token, comments included, and
whether there is a line break among them. -/
def gapAhead : Bool → List Char → Nat × Bool
  | _, [] => (0, false)
  | inComment, character :: rest =>
      if isBreak character then
        ((gapAhead false rest).1 + 1, true)
      else if inComment || character == ' ' || character == '#' then
        let (length, broken) := gapAhead (inComment || character == '#') rest
        (length + 1, broken)
      else
        (0, false)

/-- A byte order mark at the start of the text does not count. -/
def skipMark (scanner : Scanner) : Scanner :=
  if scanner.cursor.index = 0 ∧ scanner.cursor.rest.head? = some '\uFEFF' then
    scanner.skip 1
  else
    scanner

/-- Goes to the next token. A line break lets a key start, outside flow. -/
def skipGap (scanner : Scanner) : Scanner :=
  let scanner := scanner.skipMark
  let (length, broken) := gapAhead false scanner.cursor.rest
  let allowed := scanner.keyAllowed || broken && !scanner.inFlow
  (scanner.skip length).allowKey allowed

def keepFresh (cursor : Cursor) :
    Option Candidate → Except Fault (Option Candidate)
  | none => .ok none
  | some candidate =>
      if candidate.isStale cursor then
        if candidate.required then .error .malformed else .ok none
      else
        .ok (some candidate)

/-- Forgets the candidates that can be keys no more. -/
def dropStale (scanner : Scanner) : Except Fault Scanner := do
  let candidate ← keepFresh scanner.cursor scanner.candidate
  let enclosing ← scanner.enclosing.mapM (keepFresh scanner.cursor)
  pure { scanner with candidate, enclosing }

/-- Closes the block collections whose column fits; flow ignores indentation. -/
def closeBlocks (closes : Nat → Bool) (scanner : Scanner) : Scanner :=
  if scanner.inFlow then
    scanner
  else
    let closed := (scanner.columns.takeWhile closes).length
    { scanner with
      columns := scanner.columns.dropWhile closes
      tokens := List.replicate closed .blockEnd ++ scanner.tokens }

def forgetCandidate (scanner : Scanner) : Except Fault Scanner :=
  match scanner.candidate with
  | none => .ok scanner
  | some candidate =>
      if candidate.required then .error .malformed
      else .ok { scanner with candidate := none }

/-- Marks this place as a possible start of a key, if one may start here. -/
def saveCandidate (scanner : Scanner) : Except Fault Scanner :=
  if scanner.keyAllowed then do
    let scanner ← scanner.forgetCandidate
    let cursor := scanner.cursor
    pure { scanner with
      candidate := some {
        tokensBefore := scanner.tokens.length
        required := !scanner.inFlow && scanner.columns.head? == some cursor.column
        index := cursor.index
        line := cursor.line
        column := cursor.column } }
  else
    .ok scanner

def opensBlock (column : Nat) (scanner : Scanner) : Bool :=
  !scanner.inFlow && scanner.columns.head?.all (· < column)

/-- Starts a block collection at a column right of the innermost one. -/
def openBlock (token : Token) (column : Nat) (scanner : Scanner) : Scanner :=
  if scanner.opensBlock column then
    { scanner with
      tokens := token :: scanner.tokens
      columns := column :: scanner.columns }
  else
    scanner

def insertAfter (older : Nat) (inserted tokens : List Token) : List Token :=
  let newer := tokens.length - older
  tokens.take newer ++ inserted ++ tokens.drop newer

/-- A directive or a document mark ends all block collections. -/
def leaveBlocks (scanner : Scanner) : Except Fault Scanner := do
  let scanner ← (scanner.closeBlocks fun _ => true).forgetCandidate
  pure (scanner.allowKey false)

def scanDirective (scanner : Scanner) : Except Fault Scanner := do
  let scanner ← scanner.leaveBlocks
  let (directive, rest) ← readDirective (scanner.cursor.rest.drop 1)
  pure ((scanner.skipTo rest).push (.directive directive))

def scanDocumentMark (token : Token) (scanner : Scanner) :
    Except Fault Scanner := do
  let scanner ← scanner.leaveBlocks
  pure ((scanner.skip 3).push token)

def scanFlowStart (token : Token) (scanner : Scanner) :
    Except Fault Scanner := do
  let scanner ← scanner.saveCandidate
  let scanner := (scanner.skip 1).push token
  pure { scanner with
    candidate := none
    enclosing := scanner.candidate :: scanner.enclosing
    keyAllowed := true }

def scanFlowEnd (token : Token) (scanner : Scanner) :
    Except Fault Scanner := do
  let scanner ← scanner.forgetCandidate
  match scanner.enclosing with
  | [] => throw .malformed
  | candidate :: enclosing =>
      let scanner := (scanner.skip 1).push token
      pure { scanner with candidate, enclosing, keyAllowed := false }

def scanFlowEntry (scanner : Scanner) : Except Fault Scanner := do
  let scanner ← scanner.forgetCandidate
  pure (((scanner.skip 1).push .flowEntry).allowKey true)

/-- Outside flow, an entry or a key mark stands only where a key may start, and
starts its collection if that is not open yet. -/
def startEntry (collection : Token) (scanner : Scanner) :
    Except Fault Scanner :=
  if scanner.inFlow || scanner.keyAllowed then
    .ok (scanner.openBlock collection scanner.cursor.column)
  else
    .error .malformed

def scanBlockEntry (scanner : Scanner) : Except Fault Scanner := do
  let scanner ← scanner.startEntry .blockSequenceStart
  let scanner ← scanner.forgetCandidate
  pure (((scanner.skip 1).push .blockEntry).allowKey true)

def scanKey (scanner : Scanner) : Except Fault Scanner := do
  let scanner ← scanner.startEntry .blockMappingStart
  let scanner ← scanner.forgetCandidate
  pure (((scanner.skip 1).push .key).allowKey !scanner.inFlow)

/-- A value makes the candidate a key, and the key may start a mapping. -/
def scanValue (scanner : Scanner) : Except Fault Scanner :=
  match scanner.candidate with
  | some candidate =>
      let opens := scanner.opensBlock candidate.column
      let inserted :=
        if opens then [Token.key, .blockMappingStart] else [.key]
      let columns :=
        if opens then candidate.column :: scanner.columns else scanner.columns
      let scanner := { scanner with
        tokens := insertAfter candidate.tokensBefore inserted scanner.tokens
        columns
        candidate := none }
      .ok (((scanner.skip 1).push .value).allowKey false)
  | none => do
      let scanner ← scanner.startEntry .blockMappingStart
      pure (((scanner.skip 1).push .value).allowKey !scanner.inFlow)

def scanName (token : String → Token) (scanner : Scanner) :
    Except Fault Scanner := do
  let scanner ← scanner.saveCandidate
  let text := scanner.cursor.rest.drop 1
  let name := text.takeWhile isNameLetter
  let ends :=
    match text.dropWhile isNameLetter with
    | [] => true
    | character :: _ =>
        isSpace character || isBreak character ||
          "?:,]\x7d%@\x60".toList.contains character
  if name.isEmpty || !ends then
    throw .malformed
  pure (((scanner.skip (name.length + 1)).push
    (token (String.ofList name))).allowKey false)

def scanTag (scanner : Scanner) : Except Fault Scanner := do
  let scanner ← scanner.saveCandidate
  let (tag, rest) ← readTag scanner.cursor.rest
  pure (((scanner.skipTo rest).push (.tag tag)).allowKey false)

def scanBlock (folded : Bool) (scanner : Scanner) : Except Fault Scanner := do
  let scanner ← scanner.forgetCandidate
  let (text, rest) ←
    readBlock folded (max scanner.innerColumn 1) (scanner.cursor.rest.drop 1)
  pure (((scanner.skipTo rest).push
    (.scalar (String.ofList text) false)).allowKey true)

def scanQuoted (quote : Char) (scanner : Scanner) : Except Fault Scanner := do
  let scanner ← scanner.saveCandidate
  let (text, length) ← QuotedScalar.read quote (scanner.cursor.rest.drop 1)
  pure (((scanner.skip (length + 1)).push
    (.scalar (String.ofList text) false)).allowKey false)

/-- A plain scalar may end with a line break, behind which a key may start. -/
def scanPlain (scanner : Scanner) : Except Fault Scanner := do
  let scanner ← scanner.saveCandidate
  let scalar := PlainScalar.read scanner.inFlow scanner.innerColumn
    scanner.cursor.column scanner.cursor.rest
  pure (((scanner.skip scalar.length).push
    (.scalar (String.ofList scalar.text) true)).allowKey scalar.broken)

/-- Characters that start no plain scalar by themselves. -/
def isIndicator (character : Char) : Bool :=
  "-?:,[]\x7b\x7d#&*!|>'\"%@\x60".toList.contains character

/-- Whether a plain scalar can start with the character. Three of the indicators
start one in front of a word. -/
def startsPlain (inFlow : Bool) (character : Char) (rest : List Char) : Bool :=
  !isSpace character && !isBreak character && !isIndicator character ||
    !atGap rest &&
      (character == '-' || !inFlow && (character == '?' || character == ':'))

def scanToken (character : Char) (rest : List Char) (scanner : Scanner) :
    Except Fault Scanner :=
  let atStart := scanner.cursor.column == 0
  let marked := atStart && atDocumentMark (character :: rest)
  let standsAlone := scanner.inFlow || atGap rest
  match character with
  | '%' => if atStart then scanner.scanDirective else .error .malformed
  | '[' => scanner.scanFlowStart .flowSequenceStart
  | '{' => scanner.scanFlowStart .flowMappingStart
  | ']' => scanner.scanFlowEnd .flowSequenceEnd
  | '}' => scanner.scanFlowEnd .flowMappingEnd
  | ',' => scanner.scanFlowEntry
  | '*' => scanner.scanName .reference
  | '&' => scanner.scanName .anchor
  | '!' => scanner.scanTag
  | '\'' => scanner.scanQuoted '\''
  | '"' => scanner.scanQuoted '"'
  | _ =>
      if marked && character == '-' then
        scanner.scanDocumentMark .documentStart
      else if marked then
        scanner.scanDocumentMark .documentEnd
      else if character == '-' && atGap rest then
        scanner.scanBlockEntry
      else if character == '?' && standsAlone then
        scanner.scanKey
      else if character == ':' && standsAlone then
        scanner.scanValue
      else if character == '|' && !scanner.inFlow then
        scanner.scanBlock false
      else if character == '>' && !scanner.inFlow then
        scanner.scanBlock true
      else if startsPlain scanner.inFlow character rest then
        scanner.scanPlain
      else
        .error .malformed

/-- Reads what comes next: a token, with the ends of the blocks before it, or the
end of the stream. -/
def step (scanner : Scanner) : Except Fault Scanner := do
  let scanner ← scanner.skipGap.dropStale
  let column := scanner.cursor.column
  let scanner := scanner.closeBlocks (column < ·)
  match scanner.cursor.rest with
  | [] => do
      let scanner ← scanner.leaveBlocks
      pure (scanner.push .streamEnd)
  | character :: rest => scanner.scanToken character rest

def isDone (scanner : Scanner) : Bool :=
  scanner.tokens.head? == some .streamEnd

/-- The number of tokens before which no token can turn up any more: a candidate
may still become a key. -/
def settled (scanner : Scanner) : Nat :=
  let candidates := (scanner.candidate :: scanner.enclosing).filterMap id
  let fresh := candidates.filter fun candidate =>
    !candidate.isStale scanner.cursor
  fresh.foldl (fun count candidate => min count candidate.tokensBefore)
    scanner.tokens.length

/-- Reads tokens to the end of the text. Each takes at least one character. A
fault is met only by those who ask for more than the settled tokens before it. -/
def run : Nat → Scanner → TokenStream
  | 0, scanner => ⟨scanner.tokens.reverse, .malformed⟩
  | bound + 1, scanner =>
      match scanner.step with
      | .error fault =>
          ⟨scanner.tokens.reverse.take scanner.settled, fault⟩
      | .ok next =>
          if next.isDone then ⟨next.tokens.reverse, .malformed⟩
          else run bound next

end Scanner

def tokensOf (text : List Char) : TokenStream :=
  Scanner.run (text.length + 1) (Scanner.start text)

end ClassTaint.Yaml
