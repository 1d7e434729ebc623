import ClassTaint.Proofs.Catalog.Lookup
import ClassTaint.Proofs.Config.Equality
import ClassTaint.Proofs.Session.Identity

namespace ClassTaint

/-! What a session reports about its slots. A report changes only when its slot is
filled, and two slots hold the same configuration exactly when both come from one
creation. -/

namespace Session

variable {session : Session} {steps later : List Step}
  {slot left right source target descriptor : String} {name : Value}

theorem config?_play_of_spares (spared : Spares (session.transcript later) slot) :
    (session.play later).config? slot = session.config? slot := by
  unfold config?
  rw [get?_play_of_spares spared]

theorem catalog?_play_of_spares (spared : Spares (session.transcript later) slot) :
    (session.play later).catalog? slot = session.catalog? slot := by
  unfold catalog?
  rw [get?_play_of_spares spared]

theorem reply_view_iff {config : Config} :
    session.reply (.view slot) = .config config ↔
      ∃ made, session.config? slot = some made ∧ made.config = config := by
  simp only [reply, perform, ask]
  cases session.config? slot with
  | none => simp
  | some made => simp

/-- A summary is read by a step just as it is read by itself. -/
theorem reply_load_iff {summary : Value} {states : Enumeration} {defaultState : State}
    {config : Config} :
    session.reply (.load slot summary states defaultState) = .config config ↔
      ∃ text, summary = .text text ∧
        Config.load text states defaultState = .ok config := by
  simp only [reply, perform, Session.load]
  cases summary with
  | text content =>
      simp only [Config.loadValue, Value.text.injEq, exists_eq_left']
      cases Config.load content states defaultState with
      | ok other => simp [Session.make]
      | error error => simp
  | _ => simp [Config.loadValue]

theorem reply_resolve_of_view {config : Config}
    (viewed : session.reply (.view slot) = .config config) (state : State) :
    session.reply (.resolve slot state) = .state (config.resolve state) := by
  obtain ⟨made, held, rfl⟩ := reply_view_iff.mp viewed
  simp only [reply, perform, ask, held]

theorem reply_equal_of_view {first second : Config}
    (one : session.reply (.view left) = .config first)
    (two : session.reply (.view right) = .config second) :
    session.reply (.equal left right) = .truth (first.equal second) := by
  obtain ⟨made, held, rfl⟩ := reply_view_iff.mp one
  obtain ⟨other, holds, rfl⟩ := reply_view_iff.mp two
  simp only [reply, perform, compare, held, holds]

/-- A slot that is filled with a configuration shows the one that was answered. -/
theorem reply_view_of_filled {step : Step} {config : Config}
    (filled : (Event.mk step (session.reply step)).filled? = some slot)
    (answered : session.reply step = .config config) :
    (session.play [step]).reply (.view slot) = .config config := by
  obtain ⟨content, fills, held⟩ := get?_advance_of_filled filled
  cases content with
  | config made =>
      cases fills.answer_config.symm.trans answered
      exact reply_view_iff.mpr ⟨made, config?_eq_some_iff.mpr held, rfl⟩
  | catalog made =>
      obtain ⟨loading, other, -⟩ := fills.answer_catalog
      cases other.symm.trans answered

theorem reply_same {first second : MadeConfig}
    (one : session.config? left = some first)
    (two : session.config? right = some second) :
    session.reply (.same left right) =
      .truth (decide (first.origin = second.origin)) := by
  simp only [reply, perform, compare, one, two]

theorem exists_of_reply_same
    (same : session.reply (.same left right) = .truth true) :
    ∃ first second, session.config? left = some first ∧
      session.config? right = some second ∧ first.origin = second.origin := by
  simp only [reply, perform, compare] at same
  split at same
  · rename_i first second one two
    exact ⟨first, second, one, two, of_decide_eq_true (Answer.truth.inj same)⟩
  · cases same

theorem reply_lookup_iff {source target : String} {name : Value} {config : Config} :
    session.reply (.lookup source name (some target)) = .config config ↔
      ∃ made descriptor found, session.catalog? source = some made ∧
        name.spelledDescriptor = .ok descriptor ∧
        made.get? descriptor = some found ∧ found.config = config := by
  constructor
  · intro answered
    simp only [reply, perform, Session.lookup] at answered
    split at answered
    · cases answered
    · cases answered
    · rename_i made descriptor held spelled
      split at answered
      · cases answered
      · rename_i found stored
        exact ⟨made, descriptor, found, held, spelled, stored,
          Answer.config.inj answered⟩
  · intro present
    obtain ⟨made, descriptor, found, held, spelled, stored, same⟩ := present
    simp [reply, perform, Session.lookup, held, spelled, stored, same]

theorem reply_lookup_text_iff {made : MadeCatalog}
    (held : session.catalog? source = some made) {name : String} {into : Option String}
    {config : Config} :
    session.reply (.lookup source (.text name) into) = .config config ↔
      made.catalog.find? name = some config := by
  simp only [reply, perform, MadeCatalog.lookup_text held, ← MadeCatalog.config_find?]
  cases made.find? name with
  | none => simp
  | some found => simp

section Lookups

variable {made : MadeCatalog} {found : MadeConfig}
  (held : session.catalog? source = some made)
  (spelled : name.spelledDescriptor = .ok descriptor)
  (stored : made.get? descriptor = some found)

include held spelled stored

theorem filled?_lookup (target : String) :
    (Event.mk (.lookup source name (some target))
      (session.reply (.lookup source name (some target)))).filled? = some target := by
  rw [reply_lookup_iff.mpr ⟨made, descriptor, found, held, spelled, stored, rfl⟩]
  rfl

theorem config?_lookup (target : String) :
    (session.play [.lookup source name (some target)]).config? target =
      some found := by
  obtain ⟨content, fills, there⟩ :=
    get?_advance_of_filled (filled?_lookup held spelled stored target)
  rw [config?_eq_some_iff]
  cases fills with
  | lookup holds spells stores =>
      cases held.symm.trans holds
      cases spelled.symm.trans spells
      cases stored.symm.trans stores
      exact there

end Lookups

/-- A step that gives no configuration and loads no catalog changes nothing. -/
theorem slots_play_of_refused {step : Step}
    (refused : ∀ config, session.reply step ≠ .config config)
    (unloaded : ∀ loading catalog, session.reply step = .catalog loading →
      loading.outcome ≠ .ok catalog) :
    (session.play [step]).slots = session.slots := by
  cases filled : (Event.mk step (session.reply step)).filled? with
  | none => exact slots_advance_of_unfilled filled
  | some slot =>
      obtain ⟨content, fills, -⟩ := get?_advance_of_filled filled
      cases content with
      | config made => exact absurd fills.answer_config (refused made.config)
      | catalog made =>
          obtain ⟨loading, answered, loaded⟩ := fills.answer_catalog
          exact absurd loaded (unloaded loading made.catalog answered)

section Frame

variable (spared : Spares (session.transcript later) slot)

include spared

theorem reply_view_of_spares :
    (session.play later).reply (.view slot) = session.reply (.view slot) := by
  simp only [reply, perform, ask, config?_play_of_spares spared]

theorem reply_resolve_of_spares (state : State) :
    (session.play later).reply (.resolve slot state) =
      session.reply (.resolve slot state) := by
  simp only [reply, perform, ask, config?_play_of_spares spared]

variable {other : String} (others : Spares (session.transcript later) other)

include others

theorem reply_equal_of_spares :
    (session.play later).reply (.equal slot other) =
      session.reply (.equal slot other) := by
  simp only [reply, perform, compare, config?_play_of_spares spared,
    config?_play_of_spares others]

theorem reply_same_of_spares :
    (session.play later).reply (.same slot other) =
      session.reply (.same slot other) := by
  simp only [reply, perform, compare, config?_play_of_spares spared,
    config?_play_of_spares others]

end Frame

theorem comesFrom_append {origin : Origin}
    (spared : Spares ((start.play steps).transcript later) slot)
    (comes : ComesFrom (start.transcript steps) slot origin) :
    ComesFrom (start.transcript (steps ++ later)) slot origin := by
  rw [comesFrom_iff] at comes ⊢
  rw [play_append, config?_play_of_spares spared]
  exact comes

theorem reply_same_of_comesFrom {origin other : Origin}
    (one : ComesFrom (start.transcript steps) left origin)
    (two : ComesFrom (start.transcript steps) right other) :
    (start.play steps).reply (.same left right) = .truth (decide (origin = other)) := by
  obtain ⟨first, held, same⟩ := comesFrom_iff.mp one
  obtain ⟨second, holds, again⟩ := comesFrom_iff.mp two
  rw [reply_same held holds, same, again]

theorem reply_equal_of_same
    (same : (start.play steps).reply (.same left right) = .truth true) :
    (start.play steps).reply (.equal left right) = .truth true := by
  obtain ⟨first, second, one, two, origins⟩ := exists_of_reply_same same
  have configs : first.config = second.config := by
    apply Option.some.inj
    rw [← told?_origin one, ← told?_origin two, origins]
  simp only [reply, perform, compare, one, two, configs]
  exact congrArg Answer.truth (Config.equivalence_equal.refl second.config)

theorem exists_view_iff_comesFrom :
    (∃ config, (start.play steps).reply (.view slot) = .config config) ↔
      ∃ origin, ComesFrom (start.transcript steps) slot origin := by
  constructor
  · intro viewed
    obtain ⟨config, viewed⟩ := viewed
    obtain ⟨made, held, -⟩ := reply_view_iff.mp viewed
    exact ⟨made.origin, comesFrom_iff.mpr ⟨made, held, rfl⟩⟩
  · intro comes
    obtain ⟨origin, comes⟩ := comes
    obtain ⟨made, held, -⟩ := comesFrom_iff.mp comes
    exact ⟨made.config, reply_view_iff.mpr ⟨made, held, rfl⟩⟩

theorem transcript_concat (steps : List Step) (step : Step) :
    start.transcript (steps ++ [step]) =
      start.transcript steps ++ [⟨step, (start.play steps).reply step⟩] :=
  start.transcript_append steps [step]

/-- A new configuration comes from the step that made it. -/
theorem comesFrom_load {summary : Value} {states : Enumeration}
    {defaultState : State} {config : Config}
    (answered : (start.play steps).reply (.load slot summary states defaultState) =
      .config config) :
    ComesFrom (start.transcript (steps ++ [.load slot summary states defaultState]))
      slot (.step steps.length) := by
  rw [transcript_concat, answered, ← start.length_transcript steps]
  exact .loaded (.concat rfl) rfl

theorem comesFrom_make (config : Config) :
    ComesFrom (start.transcript (steps ++ [.make slot config])) slot
      (.step steps.length) := by
  rw [transcript_concat, ← start.length_transcript steps]
  exact .made (.concat rfl) rfl

theorem reply_loadCatalog (session : Session) {slot : String} (mode : Mode)
    (file : Source) :
    session.reply (.loadCatalog slot mode file) =
      .catalog (Catalog.ofSource mode file) := by
  simp only [reply, perform, Session.loadCatalog]
  cases (Catalog.ofSource mode file).outcome <;> rfl

theorem catalog?_loadCatalog {mode : Mode} {file : Source} {catalog : Catalog}
    (loaded : (Catalog.ofSource mode file).outcome = .ok catalog) :
    (session.play [.loadCatalog slot mode file]).catalog? slot =
      some ⟨catalog, session.number⟩ := by
  have filled : (Event.mk (.loadCatalog slot mode file)
      (session.reply (.loadCatalog slot mode file))).filled? = some slot := by
    simp only [reply, perform, Session.loadCatalog, loaded, Event.filled?,
      Except.toOption, Option.map_some]
  obtain ⟨content, fills, held⟩ := get?_advance_of_filled filled
  rw [catalog?_eq_some_iff]
  cases fills with
  | loadCatalog again =>
      cases loaded.symm.trans again
      exact held

/-- A configuration that is looked up comes from its catalog, whenever that was
loaded. -/
theorem comesFrom_lookup {made : MadeCatalog} {found : MadeConfig}
    (held : (start.play steps).catalog? source = some made)
    (spelled : name.spelledDescriptor = .ok descriptor)
    (stored : made.get? descriptor = some found) (target : String) :
    ComesFrom (start.transcript (steps ++ [.lookup source name (some target)]))
      target (.entry made.number descriptor) := by
  obtain ⟨config, -, same⟩ := Option.map_eq_some_iff.mp stored
  rw [comesFrom_iff, play_append]
  exact ⟨found, config?_lookup held spelled stored target, congrArg _ same.symm⟩

theorem number_lt_of_catalog? {made : MadeCatalog}
    (held : (start.play steps).catalog? source = some made) :
    made.number < steps.length := by
  obtain ⟨before, event, mode, file, fill, -, -, number⟩ := catalog?_start_iff.mp held
  rw [number, ← start.length_transcript steps]
  exact fill.length_lt

/-- Two spellings of one descriptor lead to one configuration, as long as the
catalog and the first of them stay where they are. -/
theorem reply_same_of_lookups {made : MadeCatalog} {found : MadeConfig}
    {other : Value} (opened : session.catalog? source = some made)
    (spelled : name.spelledDescriptor = .ok descriptor)
    (spells : other.spelledDescriptor = .ok descriptor)
    (stored : made.get? descriptor = some found) (apart : left ≠ source)
    (kept : Spares ((session.play [.lookup source name (some left)]).transcript later)
      left)
    (present : Spares
      ((session.play [.lookup source name (some left)]).transcript later) source) :
    (((session.play [.lookup source name (some left)]).play later).play
      [.lookup source other (some right)]).reply (.same left right) = .truth true := by
  have first := config?_lookup opened spelled stored left
  rw [← config?_play_of_spares kept] at first
  have spared : Spares (session.transcript [.lookup source name (some left)]) source := by
    rw [transcript_cons, spares_cons_iff, filled?_lookup opened spelled stored]
    refine ⟨?_, List.forall_mem_nil _⟩
    intro same
    exact apart (Option.some.inj same)
  have there : ((session.play [.lookup source name (some left)]).play later).catalog?
      source = some made := by
    rw [catalog?_play_of_spares present, catalog?_play_of_spares spared]
    exact opened
  have second := config?_lookup there spells stored right
  by_cases same : right = left
  · cases same
    rw [reply_same second second]
    simp
  · have untouched : Spares
        (((session.play [.lookup source name (some left)]).play later).transcript
          [.lookup source other (some right)]) left := by
      rw [transcript_cons, spares_cons_iff, filled?_lookup there spells stored]
      refine ⟨?_, List.forall_mem_nil _⟩
      intro again
      exact same (Option.some.inj again)
    rw [← config?_play_of_spares untouched] at first
    rw [reply_same first second]
    simp

/-- What a session reports that was played from the start. -/
structure Reports (steps : List Step) (now : Session) : Prop where
  /-- What is reported of a slot changes only when a step fills the slot. -/
  kept : ∀ later slot, Spares (now.transcript later) slot →
    (now.play later).config? slot = now.config? slot ∧
    (now.play later).reply (.view slot) = now.reply (.view slot) ∧
    (∀ state, (now.play later).reply (.resolve slot state) =
      now.reply (.resolve slot state)) ∧
    (∀ origin, ComesFrom (start.transcript steps) slot origin →
      ComesFrom (start.transcript (steps ++ later)) slot origin) ∧
    ∀ other, Spares (now.transcript later) other →
      (now.play later).reply (.equal slot other) = now.reply (.equal slot other) ∧
      (now.play later).reply (.same slot other) = now.reply (.same slot other)
  refused : ∀ step, (∀ config, now.reply step ≠ .config config) →
    (∀ loading catalog, now.reply step = .catalog loading →
      loading.outcome ≠ .ok catalog) →
    (now.play [step]).slots = now.slots
  frozen : ∀ slot field, (now.play [.assign slot field]).slots = now.slots ∧
    (now.play [.delete slot field]).slots = now.slots
  shows_iff : ∀ slot, (∃ config, now.reply (.view slot) = .config config) ↔
    ∃ origin, ComesFrom (start.transcript steps) slot origin
  same : ∀ left right origin other,
    ComesFrom (start.transcript steps) left origin →
    ComesFrom (start.transcript steps) right other →
    now.reply (.same left right) = .truth (decide (origin = other))
  resolve : ∀ slot config, now.reply (.view slot) = .config config →
    ∀ state, now.reply (.resolve slot state) = .state (config.resolve state)
  equal : ∀ left right config other, now.reply (.view left) = .config config →
    now.reply (.view right) = .config other →
    now.reply (.equal left right) = .truth (config.equal other)
  equal_of_same : ∀ left right, now.reply (.same left right) = .truth true →
    now.reply (.equal left right) = .truth true
  /-- Steps that create configurations succeed whenever there is something to read. -/
  load_iff : ∀ slot summary states defaultState config,
    now.reply (.load slot summary states defaultState) = .config config ↔
      ∃ text, summary = .text text ∧ Config.load text states defaultState = .ok config
  make : ∀ slot config, now.reply (.make slot config) = .config config
  loadCatalog : ∀ slot mode file,
    now.reply (.loadCatalog slot mode file) = .catalog (Catalog.ofSource mode file)
  lookup_iff : ∀ slot mode file catalog name into config,
    (Catalog.ofSource mode file).outcome = .ok catalog →
    ((now.play [.loadCatalog slot mode file]).reply (.lookup slot (.text name) into) =
      .config config ↔ catalog.find? name = some config)
  filled : ∀ step slot config,
    (Event.mk step (now.reply step)).filled? = some slot →
    now.reply step = .config config →
    (now.play [step]).reply (.view slot) = .config config
  /-- What is created is told apart from all that was there before. -/
  load : ∀ slot summary states defaultState config,
    now.reply (.load slot summary states defaultState) = .config config →
    ComesFrom (start.transcript (steps ++ [.load slot summary states defaultState]))
      slot (.step steps.length)
  made : ∀ slot config, ComesFrom (start.transcript (steps ++ [.make slot config]))
    slot (.step steps.length)
  entry : ∀ slot mode file catalog name target config,
    (Catalog.ofSource mode file).outcome = .ok catalog →
    (now.play [.loadCatalog slot mode file]).reply (.lookup slot name (some target)) =
      .config config →
    ∃ descriptor, name.spelledDescriptor = .ok descriptor ∧
      ComesFrom (start.transcript
        (steps ++ [.loadCatalog slot mode file, .lookup slot name (some target)]))
        target (.entry steps.length descriptor)
  apart : ∀ later left right origin other,
    ComesFrom (start.transcript (steps ++ later)) left origin →
    steps.length ≤ origin.number →
    ComesFrom (start.transcript steps) right other → Spares (now.transcript later) right →
    (now.play later).reply (.same left right) = .truth false
  /-- Looking up creates nothing, and gives the same for all spellings of a class. -/
  lookup : ∀ source name target config,
    now.reply (.lookup source name (some target)) = .config config →
    ∃ origin, ComesFrom
        (start.transcript (steps ++ [.lookup source name (some target)])) target origin ∧
      origin.number < steps.length
  spellings : ∀ source name other left right config later,
    now.reply (.lookup source name (some left)) = .config config →
    name.spelledDescriptor = other.spelledDescriptor → left ≠ source →
    let held := now.play [.lookup source name (some left)]
    Spares (held.transcript later) left → Spares (held.transcript later) source →
    ((held.play later).play [.lookup source other (some right)]).reply
      (.same left right) = .truth true

/-- Every session reports its slots in this way, whatever steps it was played with. -/
theorem reports_of_play (steps : List Step) : Reports steps (start.play steps) where
  kept _ _ spared := ⟨config?_play_of_spares spared, reply_view_of_spares spared,
    reply_resolve_of_spares spared, fun _ => comesFrom_append spared,
    fun _ others =>
      ⟨reply_equal_of_spares spared others, reply_same_of_spares spared others⟩⟩
  refused _ := slots_play_of_refused
  frozen _ _ := ⟨slots_advance_of_unfilled rfl, slots_advance_of_unfilled rfl⟩
  shows_iff _ := exists_view_iff_comesFrom
  same _ _ _ _ := reply_same_of_comesFrom
  resolve _ _ := reply_resolve_of_view
  equal _ _ _ _ := reply_equal_of_view
  equal_of_same _ _ := reply_equal_of_same
  load_iff _ _ _ _ _ := reply_load_iff
  make _ _ := rfl
  loadCatalog _ := (start.play steps).reply_loadCatalog
  lookup_iff _ _ _ _ _ _ _ loaded := reply_lookup_text_iff (catalog?_loadCatalog loaded)
  filled _ _ _ := reply_view_of_filled
  load _ _ _ _ _ := comesFrom_load
  made _ := comesFrom_make
  entry := by
    intro slot mode file catalog name target config loaded answered
    obtain ⟨made, descriptor, found, held, spelled, stored, -⟩ :=
      reply_lookup_iff.mp answered
    cases (catalog?_loadCatalog loaded).symm.trans held
    rw [← play_append] at held
    have comes := comesFrom_lookup held spelled stored target
    rw [List.append_assoc, number_play_start] at comes
    exact ⟨descriptor, spelled, comes⟩
  apart := by
    intro later left right origin other comes new older spared
    have bound := number_lt_of_comesFrom older
    have apart : origin ≠ other := by
      intro same
      rw [same] at new
      omega
    have still := comesFrom_append spared older
    have answered := reply_same_of_comesFrom comes still
    rw [play_append, decide_eq_false apart] at answered
    exact answered
  lookup := by
    intro source name target config answered
    obtain ⟨made, descriptor, found, held, spelled, stored, -⟩ :=
      reply_lookup_iff.mp answered
    exact ⟨_, comesFrom_lookup held spelled stored target, number_lt_of_catalog? held⟩
  spellings := by
    intro source name other left right config later answered same apart held kept
      present
    obtain ⟨made, descriptor, found, opened, spelled, stored, -⟩ :=
      reply_lookup_iff.mp answered
    exact reply_same_of_lookups opened spelled (same ▸ spelled) stored apart kept present

/-- One summary that is read twice and then made once more: the three are equal, and
no two of them are the same. Two spellings of a class lead to one configuration, which
an attempt to change it leaves as it is. -/
theorem reports_of_play_spellings :
    let read (slot summary : String) : Step :=
      .load slot (.text summary) TaintState.enumeration TaintState.null
    let safe : Config :=
      ⟨⟨TaintState.enumeration, ⟨"SAFE", .text "SAFE"⟩, by decide⟩, false, TaintState.null⟩
    let created := start.play [read "a" "SAFE", read "b" " SAFE"]
    let now := start.play
      [.loadCatalog "c" .lenient (.file "classes:\n  Lp/A;: SAFE\n".toUTF8)]
    let found := now.play [.lookup "c" (.text "p.A") (some "x")]
    created.reply (.view "a") = .config safe ∧
      created.reply (.equal "a" "b") = .truth true ∧
      created.reply (.same "a" "b") = .truth false ∧
      (created.play [.make "d" safe]).reply (.same "d" "a") = .truth false ∧
      (∃ config,
        now.reply (.lookup "c" (.text "p.A") (some "x")) = .config config) ∧
      ((found.play [.assign "x" "immutable"]).play
        [.lookup "c" (.text " Lp/A;") (some "y")]).reply (.same "x" "y") =
        .truth true := by
  intro read safe created now found
  -- What the two readings give, each by the session in front of it.
  have first : (start.play []).reply (read "a" "SAFE") = .config safe :=
    ((reports_of_play []).load_iff ..).mpr ⟨"SAFE", rfl, by decide⟩
  have second : (start.play [read "a" "SAFE"]).reply (read "b" " SAFE") = .config safe :=
    ((reports_of_play [read "a" "SAFE"]).load_iff ..).mpr ⟨" SAFE", rfl, by decide⟩
  have spared : Spares ((start.play [read "a" "SAFE"]).transcript [read "b" " SAFE"])
      "a" := by
    rw [transcript_cons, second]
    exact List.forall_mem_singleton.mpr (by decide)
  obtain ⟨-, kept, -, comes, -⟩ :=
    (reports_of_play [read "a" "SAFE"]).kept [read "b" " SAFE"] "a" spared
  have one : ComesFrom (start.transcript [read "a" "SAFE", read "b" " SAFE"]) "a" (.step 0) :=
    comes _ ((reports_of_play []).load _ _ _ _ _ first)
  have two : ComesFrom (start.transcript [read "a" "SAFE", read "b" " SAFE"]) "b" (.step 1) :=
    (reports_of_play [read "a" "SAFE"]).load _ _ _ _ _ second
  have viewed : created.reply (.view "a") = .config safe :=
    kept.trans ((reports_of_play []).filled _ _ _ (by rw [first]; rfl) first)
  have other : created.reply (.view "b") = .config safe :=
    (reports_of_play [read "a" "SAFE"]).filled _ _ _ (by rw [second]; rfl) second
  have reports := reports_of_play [read "a" "SAFE", read "b" " SAFE"]
  have untouched : Spares (created.transcript [.make "d" safe]) "a" :=
    List.forall_mem_singleton.mpr (by decide)
  -- The catalog is evaluated once, and what is looked up in it follows.
  obtain ⟨catalog, loaded, stored⟩ : ∃ catalog,
      (Catalog.ofSource .lenient
        (.file "classes:\n  Lp/A;: SAFE\n".toUTF8)).outcome = .ok catalog ∧
      (Table.get? "Lp/A;" catalog).isSome = true :=
    exists_ok_of_check (by decide +kernel)
  obtain ⟨config, held⟩ := Option.isSome_iff_exists.mp stored
  have answered : now.reply (.lookup "c" (.text "p.A") (some "x")) = .config config :=
    ((reports_of_play []).lookup_iff _ _ _ _ _ _ _ loaded).mpr held
  refine ⟨viewed, (reports.equal _ _ _ _ viewed other).trans
      (congrArg Answer.truth (Config.equivalence_equal.refl safe)),
    reports.same _ _ _ _ one two,
    reports.apart _ _ _ _ _ (reports.made "d" safe) (Nat.le_refl _) one untouched,
    ⟨config, answered⟩, ?_⟩
  apply (reports_of_play
    [.loadCatalog "c" .lenient (.file "classes:\n  Lp/A;: SAFE\n".toUTF8)]).spellings
    "c" (.text "p.A") (.text " Lp/A;") "x" "y" config [.assign "x" "immutable"] answered
    rfl (by decide)
  · exact List.forall_mem_singleton.mpr nofun
  · exact List.forall_mem_singleton.mpr nofun

end Session

end ClassTaint
