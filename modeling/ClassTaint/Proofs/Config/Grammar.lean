import ClassTaint.Catalog.Entry
import ClassTaint.Proofs.Config.Loading

namespace ClassTaint

/-! The form of an entry and the reading of its summary. A summary has the form
that entries ask for exactly when reading it fails on no more than the name of a
state, whatever the enumeration and the default state are. -/

theorem accepts_iff_isSummary {descriptor summary : String}
    (valid : isDescriptor descriptor.toList = true) :
    accepts (.text descriptor) (.text summary) = true ↔
      isSummary summary.toList = true := by
  simp [accepts, Value.isDescriptor, Value.isSummary, valid]

theorem SummaryParts.isSummary_iff {text word : List Char} {immutable : Bool}
    (parts : SummaryParts text word immutable) (nonempty : text ≠ []) :
    isSummary text = true ↔ word = [] ∨ IsStateName word := by
  rw [ClassTaint.isSummary_iff]
  constructor
  · rintro ⟨-, other, flag, others, form⟩
    obtain ⟨rfl, -⟩ := parts.unique others
    exact form
  · intro form
    exact ⟨nonempty, word, immutable, parts, form⟩

namespace Config

variable {summary : String} {states : Enumeration} {defaultState : State}

theorem isSummary_of_load {config : Config}
    (loaded : load summary states defaultState = .ok config) :
    isSummary (Text.trim summary.toList) = true := by
  obtain ⟨nonempty, -, word, parts, form⟩ := load_eq_ok_iff.mp loaded
  apply (parts.isSummary_iff nonempty).mpr
  rcases form with ⟨empty, -⟩ | ⟨name, -⟩
  · exact .inl empty
  · exact .inr name

/-- A text in the form of a summary is read, unless the state it names is
unknown. -/
theorem load_of_isSummary (form : isSummary summary.toList = true) :
    (∃ config, load summary states defaultState = .ok config) ∨
      ∃ token, load summary states defaultState = .error (.unknownState token) ∧
        IsStateName token.toList ∧
        (∃ immutable, SummaryParts summary.toList token.toList immutable) ∧
        ¬ states.HasName token := by
  have trimmed := trim_of_isSummary form
  cases outcome : load summary states defaultState with
  | ok config => exact .inl ⟨config, rfl⟩
  | error error =>
      right
      rcases load_eq_error_iff.mp outcome with
        ⟨empty, -⟩ | ⟨word, immutable, parts, nonempty, unknown, rfl⟩
      · rw [trimmed] at empty
        exact absurd empty (isSummary_iff.mp form).1
      · rw [trimmed] at parts
        have name : IsStateName word := by
          rcases (parts.isSummary_iff (parts.text_ne_nil nonempty)).mp form with
            empty | name
          · exact absurd empty nonempty
          · exact name
        refine ⟨String.ofList word, rfl, ?_, ⟨immutable, ?_⟩, ?_⟩
        · rw [String.toList_ofList]
          exact name
        · rw [String.toList_ofList]
          exact parts
        · intro present
          exact unknown ⟨name, present⟩

theorem isSummary_of_unknownState {token : String}
    (failed : load summary states defaultState = .error (.unknownState token))
    (name : IsStateName token.toList) :
    isSummary (Text.trim summary.toList) = true := by
  rcases load_eq_error_iff.mp failed with ⟨-, same⟩ | ⟨word, _, parts, nonempty, -, same⟩
  · cases same
  · cases same
    rw [String.toList_ofList] at name
    exact (parts.isSummary_iff (parts.text_ne_nil nonempty)).mpr (.inr name)

theorem load_succeeds_iff_isSummary :
    (∃ config, load summary states defaultState = .ok config) ↔
      isSummary (Text.trim summary.toList) = true ∧
        ∃ word immutable,
          SummaryParts (Text.trim summary.toList) word immutable ∧
            (word = [] ∨ states.HasName (String.ofList word)) := by
  constructor
  · rintro ⟨config, loaded⟩
    obtain ⟨-, -, word, parts, form⟩ := load_eq_ok_iff.mp loaded
    refine ⟨isSummary_of_load loaded, word, config.immutable, parts, ?_⟩
    rcases form with ⟨empty, -⟩ | ⟨-, denotes⟩
    · exact .inl empty
    · exact .inr denotes.hasName
  · rintro ⟨form, word, immutable, parts, known⟩
    have nonempty := (isSummary_iff.mp form).1
    rw [load_succeeds_iff parts nonempty]
    rcases (parts.isSummary_iff nonempty).mp form with empty | name
    · exact .inl empty
    · exact known.imp_right fun present => ⟨name, present⟩

/-- A summary is accepted when it is trimmed and is read, if only up to a name
that no state has. -/
theorem accepts_iff_load {descriptor : String}
    (valid : isDescriptor descriptor.toList = true) (summary : String)
    (states : Enumeration) (defaultState : State) :
    let outcome := load summary states defaultState
    let trimmed := Text.trim summary.toList
    (accepts (.text descriptor) (.text summary) = true ↔
      summary.toList = trimmed ∧
        ((∃ config, outcome = .ok config) ∨
          ∃ token, outcome = .error (.unknownState token) ∧
            IsStateName token.toList)) ∧
    ((∃ config, outcome = .ok config) ↔
      accepts (.text descriptor) (.text (String.ofList trimmed)) = true ∧
        ∃ word immutable, SummaryParts trimmed word immutable ∧
          (word = [] ∨ states.HasName (String.ofList word))) ∧
    (accepts (.text descriptor) (.text summary) = true →
      ∀ error, outcome = .error error →
        ∃ token, error = .unknownState token ∧ IsStateName token.toList ∧
          (∃ immutable, SummaryParts summary.toList token.toList immutable) ∧
          ¬ states.HasName token) := by
  intro outcome trimmed
  rw [accepts_iff_isSummary valid, accepts_iff_isSummary valid,
    String.toList_ofList]
  refine ⟨⟨?forward, ?backward⟩, load_succeeds_iff_isSummary, ?errors⟩
  case forward =>
    intro form
    refine ⟨(trim_of_isSummary form).symm, ?_⟩
    rcases load_of_isSummary form with loaded | ⟨token, failed, name, -⟩
    · exact .inl loaded
    · exact .inr ⟨token, failed, name⟩
  case backward =>
    rintro ⟨same, ⟨config, loaded⟩ | ⟨token, failed, name⟩⟩
    · rw [same]
      exact isSummary_of_load loaded
    · rw [same]
      exact isSummary_of_unknownState failed name
  case errors =>
    intro form error failed
    rcases load_of_isSummary form with ⟨config, loaded⟩ | ⟨token, unknown, rest⟩
    · cases loaded.symm.trans failed
    · cases unknown.symm.trans failed
      exact ⟨token, rfl, rest⟩

/-- A word of low lines has the form of a state name, and is none. -/
theorem accepts_iff_load_underscores :
    isDescriptor "[Lp/A;".toList = true ∧
      accepts (.text "[Lp/A;") (.text "__#IMMUTABLE") = true ∧
      load "__#IMMUTABLE" TaintState.enumeration TaintState.null =
        .error (.unknownState "__") ∧
      ∃ token, SummaryError.unknownState "__" = .unknownState token ∧
        IsStateName token.toList ∧
        (∃ immutable,
          SummaryParts "__#IMMUTABLE".toList token.toList immutable) ∧
        ¬ TaintState.enumeration.HasName token := by
  have valid : isDescriptor "[Lp/A;".toList = true := by decide
  have fits : accepts (.text "[Lp/A;") (.text "__#IMMUTABLE") = true := by decide
  have failed : load "__#IMMUTABLE" TaintState.enumeration TaintState.null =
      .error (.unknownState "__") := by decide
  exact ⟨valid, fits, failed,
    (accepts_iff_load valid "__#IMMUTABLE" TaintState.enumeration
      TaintState.null).2.2 fits _ failed⟩

end Config

end ClassTaint
