import ClassTaint.Proofs.Config.Loading
import ClassTaint.Proofs.Enumeration.Comparison

namespace ClassTaint.Config

/-! What a configuration makes of a state. One that names a state has an explicit
state unless that state equals the default one, which may be a state of another
enumeration. -/

variable {config : Config}

theorem hasExplicitState_eq_false_iff :
    config.hasExplicitState = false ↔
      config.taintState.equal config.defaultState = true := by
  simp [hasExplicitState]

theorem resolve_of_unset (unset : config.hasExplicitState = false) (state : State) :
    config.resolve state = state := by
  simp [resolve, unset]

theorem resolve_of_explicit (explicit : config.hasExplicitState = true)
    (state : State) : config.resolve state = config.taintState := by
  simp [resolve, explicit]

theorem hasExplicitState_of_default
    (same : config.taintState = config.defaultState) :
    config.hasExplicitState = false := by
  rw [hasExplicitState_eq_false_iff, same]
  exact config.defaultState.equal_self

section Named

variable {states : Enumeration} {name : String}
  (denotes : states.Denotes name config.taintState)

include denotes

/-- Inside one enumeration the names of the default state leave it unset, and no
others do. -/
theorem hasExplicitState_eq_false_iff_of_own
    (own : config.defaultState.enumeration = states) :
    config.hasExplicitState = false ↔ states.Denotes name config.defaultState := by
  have one := denotes.enumeration.trans own.symm
  rw [hasExplicitState_eq_false_iff, State.equal_iff_of_enumeration one]
  constructor
  · intro same
    exact same ▸ denotes
  · exact denotes.unique

theorem hasExplicitState_iff_of_own
    (own : config.defaultState.enumeration = states) :
    config.hasExplicitState = true ↔ config.taintState ≠ config.defaultState := by
  have one := denotes.enumeration.trans own.symm
  rw [← Bool.not_eq_false, hasExplicitState_eq_false_iff,
    State.equal_iff_of_enumeration one]

theorem hasExplicitState_eq_false_iff_of_foreign
    (foreign : config.defaultState.enumeration ≠ states) :
    config.hasExplicitState = false ↔
      (states.base = .text ∧ config.defaultState.enumeration.base = .text ∨
        states.base = .number ∧ config.defaultState.enumeration.base = .number) ∧
      config.taintState.member.value = config.defaultState.member.value := by
  have apart : config.taintState.enumeration ≠ config.defaultState.enumeration := by
    rw [denotes.enumeration]
    exact foreign.symm
  rw [hasExplicitState_eq_false_iff, State.equal_iff_of_apart apart,
    State.sharesValue_iff, denotes.enumeration]

theorem hasExplicitState_of_plain
    (foreign : config.defaultState.enumeration ≠ states)
    (plain : states.base = .plain) : config.hasExplicitState = true := by
  rw [← Bool.not_eq_false, hasExplicitState_eq_false_iff_of_foreign denotes foreign]
  simp [plain]

end Named

/-- A summary without a word leaves the state unset. One with a word names a state,
and leaves it unset only if that state equals the default one. -/
theorem load_resolution {summary : String} {states : Enumeration}
    {defaultState : State}
    (loaded : load summary states defaultState = .ok config) :
    (∃ word, SummaryParts (Text.trim summary.toList) word config.immutable ∧
      (word = [] → config.hasExplicitState = false) ∧
      (word ≠ [] →
        states.Denotes (String.ofList word) config.taintState ∧
        (defaultState.enumeration = states →
          (config.hasExplicitState = true ↔ config.taintState ≠ defaultState) ∧
          (config.hasExplicitState = false ↔
            states.Denotes (String.ofList word) defaultState)) ∧
        (defaultState.enumeration ≠ states →
          (config.hasExplicitState = false ↔
            (states.base = .text ∧ defaultState.enumeration.base = .text ∨
              states.base = .number ∧ defaultState.enumeration.base = .number) ∧
            config.taintState.member.value = defaultState.member.value) ∧
          (states.base = .plain → config.hasExplicitState = true)))) ∧
    ∀ state,
      (config.hasExplicitState = false → config.resolve state = state) ∧
      (config.hasExplicitState = true → config.resolve state = config.taintState) := by
  obtain ⟨-, same, word, parts, form⟩ := load_eq_ok_iff.mp loaded
  subst same
  refine ⟨⟨word, parts, ?unset, ?named⟩, ?resolved⟩
  case unset =>
    intro empty
    cases form with
    | inl unset => exact hasExplicitState_of_default unset.2
    | inr named => exact absurd empty named.1.1
  case named =>
    intro nonempty
    cases form with
    | inl unset => exact absurd unset.1 nonempty
    | inr named =>
        have denotes := named.2
        refine ⟨denotes, ?_, ?_⟩
        · intro own
          exact ⟨hasExplicitState_iff_of_own denotes own,
            hasExplicitState_eq_false_iff_of_own denotes own⟩
        · intro foreign
          exact ⟨hasExplicitState_eq_false_iff_of_foreign denotes foreign,
            hasExplicitState_of_plain denotes foreign⟩
  case resolved =>
    intro state
    exact ⟨fun unset => resolve_of_unset unset state,
      fun explicit => resolve_of_explicit explicit state⟩

/-- An alias for a state that shares its text with the default state of another
enumeration: the state is named, and yet it counts as unset. -/
theorem load_resolution_foreign :
    let states : Enumeration :=
      ⟨"Mode", .text, [⟨"OFF", .text "NULL"⟩, ⟨"NONE", .text "NULL"⟩,
        ⟨"ON", .text "TAINTED"⟩]⟩
    let off : State := ⟨states, ⟨"OFF", .text "NULL"⟩, by decide⟩
    let config : Config := ⟨off, true, TaintState.null⟩
    load " NONE#IMMUTABLE" states TaintState.null = .ok config ∧
      config.hasExplicitState = false ∧ ∀ state, config.resolve state = state := by
  intro states off config
  have loaded : load " NONE#IMMUTABLE" states TaintState.null = .ok config := by
    decide
  have resolution := load_resolution loaded
  obtain ⟨word, parts, -, named⟩ := resolution.1
  have written : Text.trim " NONE#IMMUTABLE".toList =
      "NONE".toList ++ immutableMarker := by decide
  obtain ⟨rfl, -⟩ := parts.unique (.marked written)
  have foreign : TaintState.null.enumeration ≠ states := by decide
  have unset : config.hasExplicitState = false :=
    (((named (by decide)).2.2 foreign).1).mpr ⟨.inl ⟨rfl, rfl⟩, rfl⟩
  exact ⟨loaded, unset, fun state => (resolution.2 state).1 unset⟩

end ClassTaint.Config
