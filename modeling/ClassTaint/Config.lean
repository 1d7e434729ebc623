import ClassTaint.Summary
import ClassTaint.TaintState
import ClassTaint.Text.Blank
import ClassTaint.Value

namespace ClassTaint

/-! Class configurations: what a class summary says, read against an
enumeration of states and a default that means "not configured". -/

structure Config where
  taintState : State
  immutable : Bool
  defaultState : State
  deriving DecidableEq, Repr

namespace Config

def standard : Config :=
  ⟨TaintState.null, false, TaintState.null⟩

def hasExplicitState (config : Config) : Bool :=
  !config.taintState.equal config.defaultState

def resolve (config : Config) (state : State) : State :=
  if config.hasExplicitState then config.taintState else state

def equal (left right : Config) : Bool :=
  left.taintState.equal right.taintState &&
    left.immutable == right.immutable &&
    left.defaultState.equal right.defaultState

def countDistinct : List Config → Nat
  | [] => 0
  | config :: rest =>
      if rest.any config.equal then
        countDistinct rest
      else
        countDistinct rest + 1

/-- The default state is not written. -/
def render (config : Config) : String :=
  "TaintClassConfig(taint_state=" ++ config.taintState.render ++
    ", immutable=" ++ (if config.immutable then "True" else "False") ++ ")"

end Config

inductive SummaryError
  | missing
  | blank
  | unknownState (token : String)
  deriving DecidableEq, Repr

def SummaryError.message : SummaryError → String
  | .missing => "Summary is None"
  | .blank => "No taint class summary specified"
  | .unknownState token => "Unknown taint state: " ++ Text.quoted token

/-- A text with or without a given ending, which is taken off. -/
def takeEnding (ending text : List Char) : List Char × Bool :=
  if ending.isSuffixOf text then
    (text.take (text.length - ending.length), true)
  else
    (text, false)

namespace Config

/-- The state meant by the part of a summary before the marker. Only state words
are looked up, so other names are out of reach. -/
def statePart (states : Enumeration) (defaultState : State)
    (word : List Char) : Except SummaryError State :=
  if word = [] then
    .ok defaultState
  else if isStateWord word then
    match State.named? states (String.ofList word) with
    | some state => .ok state
    | none => .error (.unknownState (String.ofList word))
  else
    .error (.unknownState (String.ofList word))

/-- Reads a summary: blanks around it are dropped, and one marker at its end is
taken off. -/
def load (summary : String) (states : Enumeration) (defaultState : State) :
    Except SummaryError Config :=
  let text := Text.trim summary.toList
  if text = [] then
    .error .blank
  else
    let (word, immutable) := takeEnding immutableMarker text
    match statePart states defaultState word with
    | .ok state => .ok ⟨state, immutable, defaultState⟩
    | .error error => .error error

def loadTaint (summary : String) : Except SummaryError Config :=
  load summary TaintState.enumeration TaintState.null

end Config

structure NotText where
  kindName : String
  deriving DecidableEq, Repr

def NotText.message (error : NotText) : String :=
  Text.quoted error.kindName ++ " object has no attribute 'strip'"

/-- Reading a summary that may be any value: a missing one is a summary error,
and only texts can be read. -/
def Config.loadValue (summary : Value) (states : Enumeration)
    (defaultState : State) : Except (NotText ⊕ SummaryError) Config :=
  match summary with
  | .null => .error (.inr .missing)
  | .text content =>
      match load content states defaultState with
      | .ok config => .ok config
      | .error error => .error (.inr error)
  | other => .error (.inl ⟨other.kindName⟩)

structure NotProvided where
  deriving DecidableEq, Repr

def NotProvided.message (_ : NotProvided) : String := ""

/-- Summaries of types that need not be classes have no written form yet. -/
def Config.loadGeneral (_ : Value) : Except NotProvided Config :=
  .error {}

end ClassTaint
