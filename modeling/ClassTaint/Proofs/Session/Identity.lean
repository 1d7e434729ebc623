import ClassTaint.Proofs.Session.Run

namespace ClassTaint

/-! The identity of configurations in a session. Each is created once, and its
transcript tells where: by the step that read or made it, or in the catalog that
it was looked up in. -/

/-- The creation of the configuration in a slot, told from a transcript. -/
inductive ComesFrom (events : List Event) (slot : String) : Origin → Prop
  | loaded {before : List Event} {event : Event} {summary : Value}
      {states : Enumeration} {defaultState : State}
      (fill : LastFill events slot before event)
      (step : event.step = .load slot summary states defaultState) :
      ComesFrom events slot (.step before.length)
  | made {before : List Event} {event : Event} {config : Config}
      (fill : LastFill events slot before event)
      (step : event.step = .make slot config) :
      ComesFrom events slot (.step before.length)
  | found {before earlier : List Event} {event opening : Event}
      {source descriptor : String} {name : Value} {mode : Mode} {file : Source}
      (fill : LastFill events slot before event)
      (step : event.step = .lookup source name (some slot))
      (spelled : name.spelledDescriptor = .ok descriptor)
      (catalog : LastFill before source earlier opening)
      (opened : opening.step = .loadCatalog source mode file) :
      ComesFrom events slot (.entry earlier.length descriptor)

/-- The number of the step that a creation is due to. -/
def Origin.number : Origin → Nat
  | step number => number
  | entry number _ => number

namespace Session

variable {session : Session} {steps later : List Step} {slot : String}

theorem number_before (before : List Event) :
    (start.play (before.map Event.step)).number = before.length := by
  rw [number_play_start, List.length_map]

/-- A catalog in a slot has the number of the step that loaded it. -/
theorem catalog?_start_iff {made : MadeCatalog} :
    (start.play steps).catalog? slot = some made ↔
      ∃ before event mode source,
        LastFill (start.transcript steps) slot before event ∧
        event.step = .loadCatalog slot mode source ∧
        (Catalog.ofSource mode source).outcome = .ok made.catalog ∧
        made.number = before.length := by
  rw [catalog?_eq_some_iff]
  constructor
  · intro held
    obtain ⟨before, ⟨step, answer⟩, fill, fills⟩ := get?_play_start_iff.mp held
    cases fills with
    | loadCatalog loaded =>
        exact ⟨before, _, _, _, fill, rfl, loaded, number_before before⟩
  · intro opened
    obtain ⟨before, ⟨step, answer⟩, mode, source, fill, same, loaded, number⟩ := opened
    cases same
    obtain ⟨content, fills, held⟩ := LastFill.exists_content fill
    cases fills with
    | loadCatalog again =>
        cases loaded.symm.trans again
        rw [held, number_before before, ← number]

theorem before_eq {before : List Event} {event : Event}
    (fill : LastFill (start.transcript steps) slot before event) :
    start.transcript (before.map Event.step) = before := by
  obtain ⟨after, whole, -⟩ := fill.split
  exact (transcript_split whole).1.symm

/-- A slot holds a configuration exactly when the transcript tells a creation, and
the configuration remembers that creation. -/
theorem comesFrom_iff {origin : Origin} :
    ComesFrom (start.transcript steps) slot origin ↔
      ∃ made, (start.play steps).config? slot = some made ∧ made.origin = origin := by
  constructor
  · intro comes
    cases comes with
    | loaded fill step =>
        obtain ⟨content, fills, held⟩ := LastFill.exists_content fill
        rw [step] at fills
        cases fills with
        | load read =>
            refine ⟨_, config?_eq_some_iff.mpr held, ?_⟩
            rw [number_before]
    | made fill step =>
        obtain ⟨content, fills, held⟩ := LastFill.exists_content fill
        rw [step] at fills
        cases fills with
        | make =>
            refine ⟨_, config?_eq_some_iff.mpr held, ?_⟩
            rw [number_before]
    | found fill step spelled catalog opened =>
        rw [← before_eq fill] at catalog
        obtain ⟨opening, opens, holds⟩ := LastFill.exists_content catalog
        obtain ⟨content, fills, held⟩ := LastFill.exists_content fill
        rw [opened] at opens
        rw [step] at fills
        cases fills with
        | lookup source spells stored =>
            cases spelled.symm.trans spells
            obtain ⟨config, -, same⟩ := Option.map_eq_some_iff.mp stored
            cases same
            cases opens with
            | loadCatalog loaded =>
                cases holds.symm.trans (catalog?_eq_some_iff.mp source)
                refine ⟨_, config?_eq_some_iff.mpr held, ?_⟩
                rw [number_before]
  · intro held
    obtain ⟨made, held, same⟩ := held
    cases same
    obtain ⟨before, ⟨step, answer⟩, fill, fills⟩ :=
      get?_play_start_iff.mp (config?_eq_some_iff.mp held)
    cases fills with
    | load read =>
        rw [number_before]
        exact .loaded fill rfl
    | make =>
        rw [number_before]
        exact .made fill rfl
    | lookup source spelled stored =>
        obtain ⟨config, -, same⟩ := Option.map_eq_some_iff.mp stored
        cases same
        obtain ⟨earlier, opening, mode, file, catalog, opened, -, number⟩ :=
          catalog?_start_iff.mp source
        rw [before_eq fill] at catalog
        rw [number]
        exact .found fill rfl spelled catalog opened

/-- The configuration that a creation has given, as its answer told. -/
def told? (events : List Event) : Origin → Option Config
  | .step number =>
      match events[number]?.map Event.answer with
      | some (.config config) => some config
      | _ => none
  | .entry number descriptor =>
      match events[number]?.map Event.answer with
      | some (.catalog loading) =>
          loading.outcome.toOption.bind fun catalog => catalog.get? descriptor
      | _ => none

theorem told?_append {events : List Event} (origin : Origin)
    (older : origin.number < events.length) (more : List Event) :
    told? (events ++ more) origin = told? events origin := by
  have same : (events ++ more)[origin.number]? = events[origin.number]? :=
    List.getElem?_append_left older
  cases origin with
  | step number =>
      simp only [Origin.number] at same
      rw [told?, told?, same]
  | entry number descriptor =>
      simp only [Origin.number] at same
      rw [told?, told?, same]

theorem getElem?_of_lastFill {before : List Event} {event : Event}
    (fill : LastFill (start.transcript steps) slot before event) :
    (start.transcript steps)[before.length]?.map Event.answer =
      some ((start.play (before.map Event.step)).reply event.step) := by
  obtain ⟨after, whole, -⟩ := fill.split
  have same := congrArg Event.answer (transcript_split whole).2
  simpa [whole] using same

theorem told?_origin {made : MadeConfig}
    (held : (start.play steps).config? slot = some made) :
    told? (start.transcript steps) made.origin = some made.config := by
  obtain ⟨before, ⟨step, answer⟩, fill, fills⟩ :=
    get?_play_start_iff.mp (config?_eq_some_iff.mp held)
  have here := getElem?_of_lastFill fill
  have answered := fills.answer_config
  cases fills with
  | load read =>
      rw [number_before, told?, here]
      simp only [reply, answered]
  | make =>
      rw [number_before, told?, here]
      simp only [reply, answered]
  | lookup source spelled stored =>
      obtain ⟨config, kept, same⟩ := Option.map_eq_some_iff.mp stored
      cases same
      obtain ⟨earlier, ⟨opener, _⟩, catalog, opens⟩ :=
        get?_play_start_iff.mp (catalog?_eq_some_iff.mp source)
      obtain ⟨loading, answer, loaded⟩ := opens.answer_catalog
      have there := getElem?_of_lastFill catalog
      have older := catalog.length_lt
      obtain ⟨after, whole, -⟩ := fill.split
      rw [before_eq fill] at there older
      cases opens with
      | loadCatalog again =>
          rw [number_before, whole, told?_append (.entry earlier.length _) older,
            told?, there]
          simp only [reply, answer, loaded, Except.toOption, Option.bind_some]
          exact kept

theorem number_lt_of_comesFrom {origin : Origin}
    (comes : ComesFrom (start.transcript steps) slot origin) :
    origin.number < steps.length := by
  rw [← start.length_transcript steps]
  cases comes with
  | loaded fill step => exact fill.length_lt
  | made fill step => exact fill.length_lt
  | found fill step spelled catalog opened =>
      exact Nat.lt_trans catalog.length_lt fill.length_lt

end Session

end ClassTaint
