import ClassTaint.Proofs.Enumeration.Naming
import ClassTaint.Proofs.Summary.Parts

namespace ClassTaint.Config

/-! Reading a summary against any enumeration and any default state. A
configuration comes out exactly when nothing or the name of a state stands before
the marker, and otherwise the error holds what stands there. -/

variable {states : Enumeration} {defaultState : State}

theorem statePart_eq_ok_iff {word : List Char} {state : State} :
    statePart states defaultState word = .ok state ↔
      (word = [] ∧ state = defaultState) ∨
        (IsStateName word ∧ states.Denotes (String.ofList word) state) := by
  unfold statePart
  by_cases empty : word = []
  · simp [empty, IsStateName, eq_comm]
  · by_cases name : isStateWord word = true
    · have named := isStateWord_iff.mp name
      cases found : State.named? states (String.ofList word) with
      | none =>
          have absent := State.named?_eq_none_iff.mp found
          simp only [empty, name, if_true, if_false, false_and, false_or]
          constructor
          · intro same
            cases same
          · rintro ⟨-, denotes⟩
            exact absurd denotes.hasName absent
      | some held =>
          simp only [empty, name, if_true, if_false, false_and, false_or, named,
            true_and, Except.ok.injEq, ← State.named?_eq_some_iff, found,
            Option.some.injEq]
    · have unnamed : ¬ IsStateName word := fun named =>
        name (isStateWord_iff.mpr named)
      simp [empty, name, unnamed]

theorem statePart_eq_error_iff {word : List Char} {error : SummaryError} :
    statePart states defaultState word = .error error ↔
      word ≠ [] ∧ ¬ (IsStateName word ∧ states.HasName (String.ofList word)) ∧
        error = .unknownState (String.ofList word) := by
  unfold statePart
  by_cases empty : word = []
  · simp [empty]
  · by_cases name : isStateWord word = true
    · have named := isStateWord_iff.mp name
      cases found : State.named? states (String.ofList word) with
      | none =>
          have absent := State.named?_eq_none_iff.mp found
          simp [empty, name, absent, eq_comm]
      | some held =>
          have present := (State.denotes_of_named? found).hasName
          simp [empty, name, named, present]
    · have unnamed : ¬ IsStateName word := fun named =>
        name (isStateWord_iff.mpr named)
      simp [empty, name, unnamed, eq_comm]

variable {summary : String}

theorem load_of_parts {word : List Char} {immutable : Bool}
    (nonempty : Text.trim summary.toList ≠ [])
    (parts : SummaryParts (Text.trim summary.toList) word immutable) :
    load summary states defaultState =
      match statePart states defaultState word with
      | .ok state => .ok ⟨state, immutable, defaultState⟩
      | .error error => .error error := by
  cases outcome : statePart states defaultState word with
  | ok state => simp only [load, nonempty, if_false, parts.takeEnding_eq, outcome]
  | error error =>
      simp only [load, nonempty, if_false, parts.takeEnding_eq, outcome]

theorem load_eq_ok_iff {config : Config} :
    load summary states defaultState = .ok config ↔
      Text.trim summary.toList ≠ [] ∧ config.defaultState = defaultState ∧
        ∃ word, SummaryParts (Text.trim summary.toList) word config.immutable ∧
          ((word = [] ∧ config.taintState = defaultState) ∨
            (IsStateName word ∧
              states.Denotes (String.ofList word) config.taintState)) := by
  by_cases empty : Text.trim summary.toList = []
  · simp [load, empty]
  · obtain ⟨word, immutable, parts⟩ :=
      SummaryParts.exists_parts (Text.trim summary.toList)
    rw [load_of_parts empty parts]
    constructor
    · intro loaded
      cases read : statePart states defaultState word with
      | error error =>
          rw [read] at loaded
          cases loaded
      | ok state =>
          rw [read] at loaded
          cases loaded
          exact ⟨empty, rfl, word, parts, statePart_eq_ok_iff.mp read⟩
    · rintro ⟨-, standard, other, others, form⟩
      obtain ⟨rfl, same⟩ := parts.unique others
      rw [statePart_eq_ok_iff.mpr form, ← standard, ← same]

theorem load_eq_error_iff {error : SummaryError} :
    load summary states defaultState = .error error ↔
      (Text.trim summary.toList = [] ∧ error = .blank) ∨
        ∃ word immutable,
          SummaryParts (Text.trim summary.toList) word immutable ∧ word ≠ [] ∧
            ¬ (IsStateName word ∧ states.HasName (String.ofList word)) ∧
            error = .unknownState (String.ofList word) := by
  by_cases empty : Text.trim summary.toList = []
  · constructor
    · intro failed
      simp only [load, empty, if_true, Except.error.injEq] at failed
      exact .inl ⟨empty, failed.symm⟩
    · rintro (⟨-, rfl⟩ | ⟨word, immutable, parts, nonempty, -⟩)
      · simp [load, empty]
      · exact absurd empty (parts.text_ne_nil nonempty)
  · obtain ⟨word, immutable, parts⟩ :=
      SummaryParts.exists_parts (Text.trim summary.toList)
    rw [load_of_parts empty parts]
    constructor
    · intro failed
      cases read : statePart states defaultState word with
      | ok state =>
          rw [read] at failed
          cases failed
      | error refused =>
          rw [read] at failed
          cases failed
          exact .inr ⟨word, immutable, parts, statePart_eq_error_iff.mp read⟩
    · rintro (⟨blank, -⟩ | ⟨other, flag, others, form⟩)
      · exact absurd blank empty
      · obtain ⟨rfl, -⟩ := parts.unique others
        rw [statePart_eq_error_iff.mpr form]

section Parts

variable {word : List Char} {immutable : Bool}
  (parts : SummaryParts (Text.trim summary.toList) word immutable)

include parts

theorem load_succeeds_iff (nonempty : Text.trim summary.toList ≠ []) :
    (∃ config, load summary states defaultState = .ok config) ↔
      word = [] ∨ (IsStateName word ∧ states.HasName (String.ofList word)) := by
  rw [load_of_parts nonempty parts]
  constructor
  · rintro ⟨config, loaded⟩
    cases read : statePart states defaultState word with
    | error error =>
        rw [read] at loaded
        cases loaded
    | ok state =>
        rcases statePart_eq_ok_iff.mp read with ⟨empty, -⟩ | ⟨name, denotes⟩
        · exact .inl empty
        · exact .inr ⟨name, denotes.hasName⟩
  · rintro (empty | ⟨name, present⟩)
    · rw [statePart_eq_ok_iff.mpr (.inl ⟨empty, rfl⟩)]
      exact ⟨_, rfl⟩
    · obtain ⟨state, denotes⟩ := present.exists_denotes
      rw [statePart_eq_ok_iff.mpr (.inr ⟨name, denotes⟩)]
      exact ⟨_, rfl⟩

theorem fields_of_load {config : Config}
    (loaded : load summary states defaultState = .ok config) :
    config.immutable = immutable ∧ config.defaultState = defaultState ∧
      (word = [] → config.taintState = defaultState) ∧
      (word ≠ [] → states.Denotes (String.ofList word) config.taintState) := by
  obtain ⟨-, standard, other, others, form⟩ := load_eq_ok_iff.mp loaded
  obtain ⟨rfl, same⟩ := parts.unique others
  refine ⟨same, standard, ?_, ?_⟩
  · intro empty
    rcases form with ⟨-, unset⟩ | ⟨name, -⟩
    · exact unset
    · exact absurd empty name.1
  · intro nonempty
    rcases form with ⟨empty, -⟩ | ⟨-, denotes⟩
    · exact absurd empty nonempty
    · exact denotes

theorem unknownState_of_load_fails (nonempty : Text.trim summary.toList ≠ [])
    (fails : ¬ ∃ config, load summary states defaultState = .ok config) :
    load summary states defaultState =
        .error (.unknownState (String.ofList word)) ∧ word ≠ [] := by
  rw [load_succeeds_iff parts nonempty, not_or] at fails
  exact ⟨load_eq_error_iff.mpr (.inr ⟨word, immutable, parts, fails.1, fails.2, rfl⟩),
    fails.1⟩

end Parts

/-- The whole outcome of reading a text. The token of an error is what stands
before the marker, and nothing else of the text. -/
theorem load_outcome (summary : String) (states : Enumeration)
    (defaultState : State) :
    let text := Text.trim summary.toList
    let outcome := load summary states defaultState
    (text = [] → outcome = .error .blank) ∧
    (text ≠ [] → ∃ word immutable, SummaryParts text word immutable ∧
      ((∃ config, outcome = .ok config) ↔
        word = [] ∨ (IsStateName word ∧ states.HasName (String.ofList word))) ∧
      (∀ config, outcome = .ok config →
        config.immutable = immutable ∧ config.defaultState = defaultState ∧
          (word = [] → config.taintState = defaultState) ∧
          (word ≠ [] →
            states.Denotes (String.ofList word) config.taintState)) ∧
      ((¬ ∃ config, outcome = .ok config) →
        outcome = .error (.unknownState (String.ofList word)) ∧ word ≠ [] ∧
          (∀ first ∈ word.head?, Text.isBlank first = false) ∧
          (text = word ∨ text = word ++ immutableMarker) ∧
          (immutableMarker <:+ word →
            immutableMarker ++ immutableMarker <:+ text))) ∧
    outcome ≠ .error .missing ∧
    ∀ config, outcome = .ok config →
      (∀ name, states.Denotes name config.taintState →
        ¬ IsStateName name.toList) →
      config.taintState = defaultState := by
  intro text outcome
  refine ⟨?blank, ?parts, ?missing, ?unreachable⟩
  case blank =>
    intro empty
    exact load_eq_error_iff.mpr (.inl ⟨empty, rfl⟩)
  case parts =>
    intro nonempty
    obtain ⟨word, immutable, parts⟩ := SummaryParts.exists_parts text
    refine ⟨word, immutable, parts, load_succeeds_iff parts nonempty, ?_, ?_⟩
    · intro config loaded
      exact fields_of_load parts loaded
    · intro fails
      obtain ⟨unknown, some⟩ := unknownState_of_load_fails parts nonempty fails
      refine ⟨unknown, some, ?_, parts.text_eq, parts.marked_twice⟩
      intro first starts
      exact Text.not_isBlank_head_of_prefix parts.isPrefix_word starts
  case missing =>
    intro failed
    rcases load_eq_error_iff.mp failed with ⟨-, same⟩ | ⟨_, _, _, _, _, same⟩
    all_goals cases same
  case unreachable =>
    intro config loaded outside
    obtain ⟨-, -, word, -, form⟩ := load_eq_ok_iff.mp loaded
    rcases form with ⟨-, unset⟩ | ⟨name, denotes⟩
    · exact unset
    · have refused := outside _ denotes
      rw [String.toList_ofList] at refused
      exact absurd name refused

end ClassTaint.Config
