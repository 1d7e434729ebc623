import ClassTaint.Session

namespace ClassTaint

/-! What single steps do to the slots of a session. A step fills one slot or
leaves all of them as they are, and its answer tells which. -/

/-- A step that was done, and what it was answered. -/
structure Event where
  step : Step
  answer : Answer

/-- The slot that was filled. Steps fill a slot only where they succeed. -/
def Event.filled? : Event → Option String
  | ⟨.load slot _ _ _, .config _⟩ => some slot
  | ⟨.make slot _, .config _⟩ => some slot
  | ⟨.loadCatalog slot _ _, .catalog loading⟩ =>
      loading.outcome.toOption.map fun _ => slot
  | ⟨.lookup _ _ into, .config _⟩ => into
  | _ => none

namespace Session

/-- What a slot is filled with by a step. -/
inductive Fills (session : Session) : Step → String → Slot → Prop
  | load {slot : String} {summary : Value} {states : Enumeration}
      {defaultState : State} {config : Config}
      (read : Config.loadValue summary states defaultState = .ok config) :
      Fills session (.load slot summary states defaultState) slot
        (.config ⟨config, .step session.number⟩)
  | make {slot : String} {config : Config} :
      Fills session (.make slot config) slot
        (.config ⟨config, .step session.number⟩)
  | loadCatalog {slot : String} {mode : Mode} {source : Source}
      {catalog : Catalog}
      (loaded : (Catalog.ofSource mode source).outcome = .ok catalog) :
      Fills session (.loadCatalog slot mode source) slot
        (.catalog ⟨catalog, session.number⟩)
  | lookup {slot target descriptor : String} {name : Value} {made : MadeCatalog}
      {found : MadeConfig} (held : session.catalog? slot = some made)
      (spelled : name.spelledDescriptor = .ok descriptor)
      (stored : made.get? descriptor = some found) :
      Fills session (.lookup slot name (some target)) target (.config found)

theorem Fills.unique {session : Session} {step : Step} {slot : String}
    {content other : Slot} (fills : session.Fills step slot content)
    (others : session.Fills step slot other) : content = other := by
  cases fills with
  | load read =>
      cases others with
      | load again =>
          cases read.symm.trans again
          rfl
  | make =>
      cases others with
      | make => rfl
  | loadCatalog loaded =>
      cases others with
      | loadCatalog again =>
          cases loaded.symm.trans again
          rfl
  | lookup held spelled stored =>
      cases others with
      | lookup holds spells stores =>
          cases held.symm.trans holds
          cases spelled.symm.trans spells
          cases stored.symm.trans stores
          rfl

theorem Fills.answer_config {session : Session} {step : Step} {slot : String}
    {made : MadeConfig} (fills : session.Fills step slot (.config made)) :
    (session.perform step).2 = .config made.config := by
  cases fills with
  | load read => simp [perform, Session.load, read, Session.make]
  | make => rfl
  | lookup held spelled stored =>
      simp [perform, Session.lookup, held, spelled, stored]

theorem Fills.answer_catalog {session : Session} {step : Step} {slot : String}
    {made : MadeCatalog} (fills : session.Fills step slot (.catalog made)) :
    ∃ loading, (session.perform step).2 = .catalog loading ∧
      loading.outcome = .ok made.catalog := by
  cases fills with
  | loadCatalog loaded =>
      exact ⟨_, by simp only [perform, Session.loadCatalog, loaded], loaded⟩

/-- What a step comes to: nothing changes, or one slot is filled. -/
inductive Performs (session : Session) (step : Step) : Session × Answer → Prop
  | idle {answer : Answer} (unfilled : (Event.mk step answer).filled? = none) :
      Performs session step (session, answer)
  | fill {answer : Answer} {slot : String} {content : Slot}
      (filled : (Event.mk step answer).filled? = some slot)
      (fills : session.Fills step slot content) :
      Performs session step (session.put slot content, answer)

section Steps

variable (session : Session) (slot : String)

theorem performs_load (summary : Value) (states : Enumeration)
    (defaultState : State) :
    session.Performs (.load slot summary states defaultState)
      (session.load slot summary states defaultState) := by
  unfold load
  split
  · rename_i read
    exact .fill rfl (.load read)
  · exact .idle rfl
  · exact .idle rfl

theorem performs_loadCatalog (mode : Mode) (source : Source) :
    session.Performs (.loadCatalog slot mode source)
      (session.loadCatalog slot mode source) := by
  cases outcome : (Catalog.ofSource mode source).outcome with
  | ok catalog =>
      simp only [loadCatalog, outcome]
      exact .fill (by simp [Event.filled?, outcome, Except.toOption])
        (.loadCatalog outcome)
  | error error =>
      simp only [loadCatalog, outcome]
      exact .idle (by simp [Event.filled?, outcome, Except.toOption])

theorem performs_lookup (name : Value) (into : Option String) :
    session.Performs (.lookup slot name into) (session.lookup slot name into) := by
  unfold lookup
  split
  · exact .idle rfl
  · exact .idle rfl
  · rename_i held spelled
    split
    · exact .idle rfl
    · rename_i stored
      cases into with
      | none => exact .idle rfl
      | some target => exact .fill rfl (.lookup held spelled stored)

end Steps

theorem performs (session : Session) (step : Step) :
    session.Performs step (session.perform step) := by
  cases step with
  | load slot summary states defaultState =>
      exact session.performs_load slot summary states defaultState
  | make slot config => exact .fill rfl .make
  | loadCatalog slot mode source => exact session.performs_loadCatalog slot mode source
  | lookup slot name into => exact session.performs_lookup slot name into
  | accepts descriptor summary => exact .idle rfl
  | view slot => exact .idle rfl
  | resolve slot state => exact .idle rfl
  | equal left right => exact .idle rfl
  | same left right => exact .idle rfl
  | countDistinct slots => exact .idle rfl
  | assign slot field => exact .idle rfl
  | delete slot field => exact .idle rfl

end Session

end ClassTaint
