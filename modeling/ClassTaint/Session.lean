import ClassTaint.Catalog.Source

namespace ClassTaint

/-! Sessions: configurations and catalogs in named slots. Each configuration
remembers where it was made, so that two of them can be told apart even when
they are equal. -/

/-- The step that made a configuration, by its number, and for a catalog the
entry in it. -/
inductive Origin
  | step (number : Nat)
  | entry (number : Nat) (descriptor : String)
  deriving DecidableEq, Repr

structure MadeConfig where
  config : Config
  origin : Origin
  deriving DecidableEq, Repr

structure MadeCatalog where
  catalog : Catalog
  number : Nat

def MadeCatalog.get? (made : MadeCatalog) (descriptor : String) :
    Option MadeConfig :=
  (made.catalog.get? descriptor).map fun config =>
    ⟨config, .entry made.number descriptor⟩

inductive Slot
  | config (made : MadeConfig)
  | catalog (made : MadeCatalog)

/-- The number of the next step, and what the slots hold. -/
structure Session where
  number : Nat
  slots : Table String Slot

inductive Step
  | load (slot : String) (summary : Value) (states : Enumeration)
      (defaultState : State)
  | make (slot : String) (config : Config)
  | loadCatalog (slot : String) (mode : Mode) (source : Source)
  | lookup (slot : String) (name : Value) (into : Option String)
  | accepts (descriptor summary : Value)
  | view (slot : String)
  | resolve (slot : String) (state : State)
  | equal (left right : String)
  | same (left right : String)
  | countDistinct (slots : List String)
  | assign (slot field : String)
  | delete (slot field : String)

/-- Configurations never change: no field can be assigned or deleted. -/
inductive FrozenError
  | assigned (field : String)
  | deleted (field : String)
  deriving DecidableEq, Repr

def FrozenError.message : FrozenError → String
  | .assigned field => "cannot assign to field " ++ Text.quoted field
  | .deleted field => "cannot delete field " ++ Text.quoted field

inductive Answer
  | config (config : Config)
  | notFound
  | notText (error : NotText)
  | badSummary (error : SummaryError)
  | catalog (loading : SourceLoading)
  | truth (truth : Bool)
  | state (state : State)
  | count (count : Nat)
  | frozen (error : FrozenError)
  /-- A slot was read that does not hold what is asked for. -/
  | empty

namespace Session

def start : Session :=
  ⟨0, []⟩

def put (slot : String) (content : Slot) (session : Session) : Session :=
  { session with slots := session.slots.put slot content }

def config? (slot : String) (session : Session) : Option MadeConfig :=
  match session.slots.get? slot with
  | some (.config made) => some made
  | _ => none

def catalog? (slot : String) (session : Session) : Option MadeCatalog :=
  match session.slots.get? slot with
  | some (.catalog made) => some made
  | _ => none

def make (slot : String) (config : Config) (session : Session) :
    Session × Answer :=
  (session.put slot (.config ⟨config, .step session.number⟩), .config config)

def load (slot : String) (summary : Value) (states : Enumeration)
    (defaultState : State) (session : Session) : Session × Answer :=
  match Config.loadValue summary states defaultState with
  | .ok config => session.make slot config
  | .error (.inl error) => (session, .notText error)
  | .error (.inr error) => (session, .badSummary error)

def loadCatalog (slot : String) (mode : Mode) (source : Source)
    (session : Session) : Session × Answer :=
  let loading := Catalog.ofSource mode source
  match loading.outcome with
  | .ok catalog =>
      (session.put slot (.catalog ⟨catalog, session.number⟩), .catalog loading)
  | .error _ => (session, .catalog loading)

/-- A configuration that is found may be put into a slot, and stays the one of
the catalog. -/
def lookup (slot : String) (name : Value) (into : Option String)
    (session : Session) : Session × Answer :=
  match session.catalog? slot, name.spelledDescriptor with
  | none, _ => (session, .empty)
  | some _, .error error => (session, .notText error)
  | some made, .ok descriptor =>
      match made.get? descriptor with
      | none => (session, .notFound)
      | some found =>
          let session :=
            match into with
            | none => session
            | some target => session.put target (.config found)
          (session, .config found.config)

def ask (slot : String) (answer : MadeConfig → Answer) (session : Session) :
    Answer :=
  match session.config? slot with
  | some made => answer made
  | none => .empty

def compare (left right : String) (holds : MadeConfig → MadeConfig → Bool)
    (session : Session) : Answer :=
  match session.config? left, session.config? right with
  | some first, some second => .truth (holds first second)
  | _, _ => .empty

def perform (step : Step) (session : Session) : Session × Answer :=
  match step with
  | .load slot summary states defaultState =>
      session.load slot summary states defaultState
  | .make slot config => session.make slot config
  | .loadCatalog slot mode source => session.loadCatalog slot mode source
  | .lookup slot name into => session.lookup slot name into
  | .accepts descriptor summary =>
      (session, .truth (ClassTaint.accepts descriptor summary))
  | .view slot => (session, session.ask slot fun made => .config made.config)
  | .resolve slot state =>
      (session, session.ask slot fun made => .state (made.config.resolve state))
  | .equal left right =>
      (session, session.compare left right fun first second =>
        first.config.equal second.config)
  | .same left right =>
      (session, session.compare left right fun first second =>
        first.origin = second.origin)
  | .countDistinct slots =>
      (session, match slots.mapM session.config? with
        | some made => .count (Config.countDistinct (made.map (·.config)))
        | none => .empty)
  | .assign slot field =>
      (session, session.ask slot fun _ => .frozen (.assigned field))
  | .delete slot field =>
      (session, session.ask slot fun _ => .frozen (.deleted field))

def advance (step : Step) (session : Session) : Session × Answer :=
  let (session, answer) := session.perform step
  ({ session with number := session.number + 1 }, answer)

def answers : Session → List Step → List Answer
  | _, [] => []
  | session, step :: steps =>
      let (session, answer) := session.advance step
      answer :: answers session steps

end Session

end ClassTaint
