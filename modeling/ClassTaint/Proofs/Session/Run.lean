import ClassTaint.Proofs.Session.Filling
import Mathlib.Data.List.Induction

namespace ClassTaint

/-! Runs of steps. A slot holds what the last step that filled it has put there,
and the transcript of a run tells which step that was. -/

/-- No event fills the slot. -/
def Spares (events : List Event) (slot : String) : Prop :=
  ∀ event ∈ events, event.filled? ≠ some slot

/-- The last event that fills a slot, and those before it. -/
structure LastFill (events : List Event) (slot : String) (before : List Event)
    (event : Event) : Prop where
  filled : event.filled? = some slot
  split : ∃ after, events = before ++ event :: after ∧ Spares after slot

section Events

variable {events before more : List Event} {event : Event} {slot : String}

theorem spares_cons_iff :
    Spares (event :: events) slot ↔ event.filled? ≠ some slot ∧ Spares events slot :=
  List.forall_mem_cons

theorem spares_append_iff :
    Spares (events ++ more) slot ↔ Spares events slot ∧ Spares more slot :=
  List.forall_mem_append

theorem LastFill.length_lt (fill : LastFill events slot before event) :
    before.length < events.length := by
  obtain ⟨after, whole, -⟩ := fill.split
  simp [whole]

theorem LastFill.append (fill : LastFill events slot before event)
    (spared : Spares more slot) : LastFill (events ++ more) slot before event where
  filled := fill.filled
  split := by
    obtain ⟨after, whole, behind⟩ := fill.split
    refine ⟨after ++ more, ?_, spares_append_iff.mpr ⟨behind, spared⟩⟩
    simp [whole]

theorem LastFill.concat (filled : event.filled? = some slot) :
    LastFill (events ++ [event]) slot events event :=
  ⟨filled, [], rfl, List.forall_mem_nil _⟩

theorem LastFill.of_concat {last : Event}
    (fill : LastFill (events ++ [last]) slot before event)
    (other : last.filled? ≠ some slot) : LastFill events slot before event where
  filled := fill.filled
  split := by
    obtain ⟨after, whole, behind⟩ := fill.split
    cases after using List.reverseRecOn with
    | nil =>
        have same := (List.append_inj' whole rfl).2
        cases same
        exact absurd fill.filled other
    | append_singleton after final =>
        rw [← List.cons_append, ← List.append_assoc] at whole
        exact ⟨after, List.append_inj_left' whole rfl,
          (spares_append_iff.mp behind).1⟩

theorem LastFill.eq_of_concat {last : Event}
    (fill : LastFill (events ++ [last]) slot before event)
    (filled : last.filled? = some slot) : before = events ∧ event = last := by
  obtain ⟨after, whole, behind⟩ := fill.split
  cases after using List.reverseRecOn with
  | nil =>
      obtain ⟨same, singles⟩ := List.append_inj' whole rfl
      cases singles
      exact ⟨same.symm, rfl⟩
  | append_singleton after final =>
      rw [← List.cons_append, ← List.append_assoc] at whole
      cases List.append_inj_right' whole rfl
      exact absurd filled ((spares_append_iff.mp behind).2 last List.mem_cons_self)

end Events

namespace Session

theorem config?_eq_some_iff {session : Session} {slot : String} {made : MadeConfig} :
    session.config? slot = some made ↔
      session.slots.get? slot = some (.config made) := by
  unfold config?
  split
  · rename_i held
    simp [held]
  · rename_i other
    simpa using other made

theorem catalog?_eq_some_iff {session : Session} {slot : String}
    {made : MadeCatalog} :
    session.catalog? slot = some made ↔
      session.slots.get? slot = some (.catalog made) := by
  unfold catalog?
  split
  · rename_i held
    simp [held]
  · rename_i other
    simpa using other made

/-- The session behind some steps. -/
def play : Session → List Step → Session
  | session, [] => session
  | session, step :: steps => (session.advance step).1.play steps

def reply (session : Session) (question : Step) : Answer :=
  (session.perform question).2

def transcript (session : Session) (steps : List Step) : List Event :=
  List.zipWith Event.mk steps (session.answers steps)

variable {session : Session} {steps front back : List Step} {step : Step}
  {slot : String}

theorem transcript_cons (session : Session) (step : Step) (steps : List Step) :
    session.transcript (step :: steps) =
      ⟨step, session.reply step⟩ :: (session.advance step).1.transcript steps :=
  rfl

theorem play_append (session : Session) (front back : List Step) :
    session.play (front ++ back) = (session.play front).play back := by
  induction front generalizing session with
  | nil => rfl
  | cons step steps induction => exact induction _

theorem transcript_append (session : Session) (front back : List Step) :
    session.transcript (front ++ back) =
      session.transcript front ++ (session.play front).transcript back := by
  induction front generalizing session with
  | nil => rfl
  | cons step steps induction =>
      rw [List.cons_append, transcript_cons, induction, transcript_cons,
        List.cons_append]
      rfl

theorem map_step_transcript (session : Session) (steps : List Step) :
    (session.transcript steps).map Event.step = steps := by
  induction steps generalizing session with
  | nil => rfl
  | cons step steps induction =>
      rw [transcript_cons, List.map_cons, induction]

theorem length_transcript (session : Session) (steps : List Step) :
    (session.transcript steps).length = steps.length := by
  rw [← List.length_map Event.step, map_step_transcript]

theorem number_perform (session : Session) (step : Step) :
    (session.perform step).1.number = session.number := by
  have performs := session.performs step
  generalize session.perform step = result at performs ⊢
  cases performs with
  | idle => rfl
  | fill => rfl

theorem number_advance (session : Session) (step : Step) :
    (session.advance step).1.number = session.number + 1 :=
  congrArg (· + 1) (session.number_perform step)

theorem number_play (session : Session) (steps : List Step) :
    (session.play steps).number = session.number + steps.length := by
  induction steps generalizing session with
  | nil => rfl
  | cons step steps induction =>
      rw [play, induction, number_advance, List.length_cons]
      omega

theorem slots_advance_of_unfilled
    (unfilled : (Event.mk step (session.reply step)).filled? = none) :
    (session.advance step).1.slots = session.slots := by
  have performs := session.performs step
  change (session.perform step).1.slots = _
  unfold reply at unfilled
  generalize session.perform step = result at performs unfilled ⊢
  cases performs with
  | idle => rfl
  | fill filled fills => cases unfilled.symm.trans filled

theorem get?_advance_of_unfilled
    (spared : (Event.mk step (session.reply step)).filled? ≠ some slot) :
    (session.advance step).1.slots.get? slot = session.slots.get? slot := by
  have performs := session.performs step
  change (session.perform step).1.slots.get? slot = _
  unfold reply at spared
  generalize session.perform step = result at performs spared ⊢
  cases performs with
  | idle => rfl
  | fill filled fills =>
      apply Table.get?_put_of_ne
      intro same
      rw [same] at spared
      exact spared filled

theorem get?_advance_of_filled
    (filled : (Event.mk step (session.reply step)).filled? = some slot) :
    ∃ content, session.Fills step slot content ∧
      (session.advance step).1.slots.get? slot = some content := by
  have performs := session.performs step
  change ∃ content, _ ∧ (session.perform step).1.slots.get? slot = some content
  unfold reply at filled
  generalize session.perform step = result at performs filled ⊢
  cases performs with
  | idle unfilled => cases unfilled.symm.trans filled
  | fill other fills =>
      cases Option.some.inj (other.symm.trans filled)
      exact ⟨_, fills, Table.get?_put_self _ _ _⟩

theorem number_play_start (steps : List Step) :
    (start.play steps).number = steps.length := by
  rw [number_play]
  exact Nat.zero_add _

/-- Each event is a step of the run with its answer, behind the events before it. -/
theorem transcript_split {before after : List Event} {event : Event}
    (whole : session.transcript steps = before ++ event :: after) :
    before = session.transcript (before.map Event.step) ∧
      event =
        ⟨event.step, (session.play (before.map Event.step)).reply event.step⟩ := by
  have stepped : steps = before.map Event.step ++ event.step :: after.map Event.step := by
    rw [← session.map_step_transcript steps, whole]
    simp
  rw [stepped, transcript_append, transcript_cons] at whole
  have same := List.append_inj whole (by simp [length_transcript])
  exact ⟨same.1.symm, (List.cons.inj same.2).1.symm⟩

/-- What is in a slot stays there until a step fills it. -/
theorem get?_play_of_spares (spared : Spares (session.transcript steps) slot) :
    (session.play steps).slots.get? slot = session.slots.get? slot := by
  induction steps generalizing session with
  | nil => rfl
  | cons step steps induction =>
      rw [transcript_cons, spares_cons_iff] at spared
      rw [play, induction spared.2, get?_advance_of_unfilled spared.1]

/-- From an empty start, slots hold what their last fill put there. -/
theorem get?_play_start_iff {content : Slot} :
    (start.play steps).slots.get? slot = some content ↔
      ∃ before event, LastFill (start.transcript steps) slot before event ∧
        (start.play (before.map Event.step)).Fills event.step slot content := by
  induction steps using List.reverseRecOn generalizing content with
  | nil =>
      constructor
      · intro held
        cases held
      · intro filled
        obtain ⟨before, event, fill, -⟩ := filled
        obtain ⟨after, whole, -⟩ := fill.split
        simp [transcript] at whole
  | append_singleton steps step induction =>
      have step_play : (start.play (steps ++ [step])).slots.get? slot =
          ((start.play steps).advance step).1.slots.get? slot := by
        rw [play_append]
        rfl
      have events : start.transcript (steps ++ [step]) =
          start.transcript steps ++ [⟨step, (start.play steps).reply step⟩] :=
        start.transcript_append steps [step]
      rw [step_play, events]
      by_cases filled :
          (Event.mk step ((start.play steps).reply step)).filled? = some slot
      · obtain ⟨filling, fills, held⟩ := get?_advance_of_filled filled
        rw [held]
        constructor
        · intro same
          cases same
          refine ⟨_, _, .concat filled, ?_⟩
          rw [map_step_transcript]
          exact fills
        · intro others
          obtain ⟨before, event, fill, again⟩ := others
          obtain ⟨rfl, rfl⟩ := fill.eq_of_concat filled
          rw [map_step_transcript] at again
          exact congrArg some (fills.unique again)
      · rw [get?_advance_of_unfilled filled, induction]
        constructor
        · intro others
          obtain ⟨before, event, fill, fills⟩ := others
          exact ⟨before, event, fill.append (List.forall_mem_singleton.mpr filled), fills⟩
        · intro others
          obtain ⟨before, event, fill, fills⟩ := others
          exact ⟨before, event, fill.of_concat filled, fills⟩

theorem LastFill.exists_content {before : List Event} {event : Event}
    (fill : LastFill (start.transcript steps) slot before event) :
    ∃ content, (start.play (before.map Event.step)).Fills event.step slot content ∧
      (start.play steps).slots.get? slot = some content := by
  obtain ⟨after, whole, -⟩ := fill.split
  have filled := fill.filled
  rw [(transcript_split whole).2] at filled
  obtain ⟨content, fills, -⟩ := get?_advance_of_filled filled
  exact ⟨content, fills, get?_play_start_iff.mpr ⟨before, _, fill, fills⟩⟩

end Session

end ClassTaint
