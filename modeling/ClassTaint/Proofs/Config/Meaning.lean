import ClassTaint.Proofs.Config.Equality
import ClassTaint.Proofs.Enumeration.Taint

namespace ClassTaint

/-! What a summary means. Two summaries that are read against one enumeration come to
equal configurations just when both or neither of them have the marker, and they mean
the same state. -/

theorem SummaryParts.marked_iff {text word : List Char} {immutable : Bool}
    (parts : SummaryParts text word immutable) :
    immutable = true ↔ immutableMarker <:+ text := by
  cases parts with
  | marked whole => exact iff_of_true rfl ⟨word, whole.symm⟩
  | unmarked absent => exact iff_of_false Bool.false_ne_true absent

/-- The state under a name, be it canonical or not, and the default state where there
is no name. -/
inductive StandsFor (states : Enumeration) (defaultState : State) :
    List Char → State → Prop
  | unset : StandsFor states defaultState [] defaultState
  | named {word : List Char} {state : State} (nonempty : word ≠ [])
      (denotes : states.Denotes (String.ofList word) state) :
      StandsFor states defaultState word state

/-- The state that is meant by the part of a summary before the marker. -/
def Means (states : Enumeration) (defaultState : State) (text : List Char)
    (state : State) : Prop :=
  ∃ word immutable, SummaryParts text word immutable ∧
    StandsFor states defaultState word state

section Meanings

variable {states : Enumeration} {defaultState state other : State}
  {word text : List Char}

theorem StandsFor.unique (first : StandsFor states defaultState word state)
    (second : StandsFor states defaultState word other) : state = other := by
  cases first with
  | unset =>
      cases second with
      | unset => rfl
      | named nonempty _ => exact absurd rfl nonempty
  | named nonempty denotes =>
      cases second with
      | unset => exact absurd rfl nonempty
      | named _ others => exact denotes.unique others

theorem StandsFor.enumeration (own : defaultState.enumeration = states)
    (stands : StandsFor states defaultState word state) :
    state.enumeration = states := by
  cases stands with
  | unset => exact own
  | named _ denotes => exact denotes.enumeration

theorem Means.unique (first : Means states defaultState text state)
    (second : Means states defaultState text other) : state = other := by
  obtain ⟨word, _, parts, stands⟩ := first
  obtain ⟨_, _, others, standing⟩ := second
  obtain ⟨rfl, -⟩ := parts.unique others
  exact stands.unique standing

end Meanings

namespace TaintState

/-- The name of the default state is the only name that may be left out. -/
theorem eq_or_null_of_standsFor {word other : List Char} {state : State}
    (first : StandsFor enumeration null word state)
    (second : StandsFor enumeration null other state) :
    word = other ∨ (word = [] ∧ other = "NULL".toList) ∨
      (word = "NULL".toList ∧ other = []) := by
  have named : ∀ {name : List Char}, enumeration.Denotes (String.ofList name) null →
      name = "NULL".toList := by
    intro name denotes
    rw [← eq_of_denotes denotes denotes_null, String.toList_ofList]
  cases first with
  | unset =>
      cases second with
      | unset => exact .inl rfl
      | named _ denotes => exact .inr (.inl ⟨rfl, named denotes⟩)
  | named _ denotes =>
      cases second with
      | unset => exact .inr (.inr ⟨named denotes, rfl⟩)
      | named _ others => exact .inl (String.ofList_inj.mp (eq_of_denotes denotes others))

theorem enumeration_null : null.enumeration = enumeration :=
  rfl

theorem means_null_of_marker : Means enumeration null immutableMarker null :=
  ⟨[], true, .marked rfl, .unset⟩

theorem means_null_of_name : Means enumeration null "NULL#IMMUTABLE".toList null :=
  ⟨"NULL".toList, true, .marked (by decide), .named (by decide) denotes_null⟩

end TaintState

namespace Config

variable {states : Enumeration} {defaultState : State} {summary other : String}
  {config second : Config}

theorem means_iff_of_load (loaded : load summary states defaultState = .ok config)
    {state : State} :
    Means states defaultState (Text.trim summary.toList) state ↔
      state = config.taintState := by
  have meant : Means states defaultState (Text.trim summary.toList) config.taintState := by
    obtain ⟨-, -, word, parts, form⟩ := load_eq_ok_iff.mp loaded
    refine ⟨word, config.immutable, parts, ?_⟩
    rcases form with ⟨rfl, unset⟩ | ⟨name, denotes⟩
    · rw [unset]
      exact .unset
    · exact .named name.1 denotes
  constructor
  · intro other
    exact other.unique meant
  · rintro rfl
    exact meant

theorem immutable_iff_of_load (loaded : load summary states defaultState = .ok config) :
    config.immutable = true ↔ immutableMarker <:+ Text.trim summary.toList := by
  obtain ⟨-, -, word, parts, -⟩ := load_eq_ok_iff.mp loaded
  exact parts.marked_iff

section Own

variable (own : defaultState.enumeration = states)
  (first : load summary states defaultState = .ok config)
  (others : load other states defaultState = .ok second)

include own first others

/-- The states of one enumeration are equal only if they are the same, so what two
summaries come to is compared field by field. -/
theorem equal_iff_of_load :
    config.equal second = true ↔
      config.immutable = second.immutable ∧ config.taintState = second.taintState := by
  have enumeration : ∀ {summary config}, load summary states defaultState = .ok config →
      config.taintState.enumeration = states := by
    intro summary config loaded
    obtain ⟨word, immutable, -, stands⟩ := (means_iff_of_load loaded).mpr rfl
    exact stands.enumeration own
  have same : config.taintState.enumeration = second.taintState.enumeration :=
    (enumeration first).trans (enumeration others).symm
  have defaults : config.defaultState.equal second.defaultState = true := by
    rw [(load_eq_ok_iff.mp first).2.1, (load_eq_ok_iff.mp others).2.1]
    exact State.equal_self _
  rw [equal_iff, State.equal_iff_of_enumeration same]
  constructor
  · rintro ⟨states, immutable, -⟩
    exact ⟨immutable, states⟩
  · rintro ⟨immutable, states⟩
    exact ⟨states, immutable, defaults⟩

theorem equal_iff_means :
    config.equal second = true ↔
      (immutableMarker <:+ Text.trim summary.toList ↔
        immutableMarker <:+ Text.trim other.toList) ∧
      ∃ state, Means states defaultState (Text.trim summary.toList) state ∧
        Means states defaultState (Text.trim other.toList) state := by
  rw [equal_iff_of_load own first others, Bool.eq_iff_iff, immutable_iff_of_load first,
    immutable_iff_of_load others]
  apply and_congr_right
  intro _
  simp only [means_iff_of_load first, means_iff_of_load others, exists_eq_left]

end Own

section Taint

variable (first : loadTaint summary = .ok config)
  (others : loadTaint other = .ok second)

include first others

/-- Two summaries of taint states are equal when read only if they are written alike,
up to the name of the null state in front of the marker. -/
theorem eq_or_null_of_equal (same : config.equal second = true) :
    Text.trim summary.toList = Text.trim other.toList ∨
      (Text.trim summary.toList = immutableMarker ∧
        Text.trim other.toList = "NULL#IMMUTABLE".toList) ∨
      (Text.trim summary.toList = "NULL#IMMUTABLE".toList ∧
        Text.trim other.toList = immutableMarker) := by
  obtain ⟨marks, state, ⟨word, flag, parts, stands⟩, ⟨name, mark, pieces, standing⟩⟩ :=
    (equal_iff_means TaintState.enumeration_null first others).mp same
  obtain ⟨nonempty, -⟩ := load_eq_ok_iff.mp first
  obtain ⟨some, -⟩ := load_eq_ok_iff.mp others
  rw [← parts.marked_iff, ← pieces.marked_iff, ← Bool.eq_iff_iff] at marks
  subst marks
  cases parts with
  | marked whole =>
      cases pieces with
      | marked written =>
          rw [whole, written]
          rcases TaintState.eq_or_null_of_standsFor stands standing with
            rfl | ⟨rfl, rfl⟩ | ⟨rfl, rfl⟩
          · exact .inl rfl
          · exact .inr (.inl ⟨rfl, rfl⟩)
          · exact .inr (.inr ⟨rfl, rfl⟩)
  | unmarked =>
      -- A summary that is read is not empty, so that both have a name here.
      cases pieces with
      | unmarked =>
          rcases TaintState.eq_or_null_of_standsFor stands standing with
            alike | ⟨empty, -⟩ | ⟨-, empty⟩
          · exact .inl alike
          · exact absurd empty nonempty
          · exact absurd empty some

theorem equal_of_eq (alike : Text.trim summary.toList = Text.trim other.toList) :
    config.equal second = true := by
  apply (equal_iff_means TaintState.enumeration_null first others).mpr
  rw [← alike]
  exact ⟨Iff.rfl, _, (means_iff_of_load first).mpr rfl, (means_iff_of_load first).mpr rfl⟩

theorem equal_of_null (bare : Text.trim summary.toList = immutableMarker)
    (named : Text.trim other.toList = "NULL#IMMUTABLE".toList) :
    config.equal second = true := by
  apply (equal_iff_means TaintState.enumeration_null first others).mpr
  rw [bare, named]
  exact ⟨by decide, TaintState.null, TaintState.means_null_of_marker,
    TaintState.means_null_of_name⟩

theorem equal_iff_eq_or_null :
    config.equal second = true ↔
      Text.trim summary.toList = Text.trim other.toList ∨
        ({Text.trim summary.toList, Text.trim other.toList} : Set (List Char)) =
          {immutableMarker, "NULL#IMMUTABLE".toList} := by
  rw [Set.pair_eq_pair_iff]
  constructor
  · exact eq_or_null_of_equal first others
  · rintro (alike | ⟨bare, named⟩ | ⟨named, bare⟩)
    · exact equal_of_eq first others alike
    · exact equal_of_null first others bare named
    · exact equivalence_equal.symm (equal_of_null others first bare named)

end Taint

/-- What two summaries come to is equal just when both or neither have the marker, and
they mean one state: an alias means its canonical state, and no name the default one.
Among the taint states, where no name is an alias, only the null state can be written
in two ways. -/
theorem load_kernel :
    (∀ (states : Enumeration) (defaultState : State),
      defaultState.enumeration = states →
      ∀ (summary other : String) (config second : Config),
        load summary states defaultState = .ok config →
        load other states defaultState = .ok second →
        (config.equal second = true ↔
          (immutableMarker <:+ Text.trim summary.toList ↔
            immutableMarker <:+ Text.trim other.toList) ∧
          ∃ state, Means states defaultState (Text.trim summary.toList) state ∧
            Means states defaultState (Text.trim other.toList) state) ∧
        ∀ state, Means states defaultState (Text.trim summary.toList) state ↔
          state = config.taintState) ∧
    ∀ (summary other : String) (config second : Config),
      loadTaint summary = .ok config → loadTaint other = .ok second →
      (config.equal second = true ↔
        Text.trim summary.toList = Text.trim other.toList ∨
          ({Text.trim summary.toList, Text.trim other.toList} : Set (List Char)) =
            {immutableMarker, "NULL#IMMUTABLE".toList}) := by
  refine ⟨?meanings, ?taint⟩
  case meanings =>
    intro states defaultState own summary other config second first others
    exact ⟨equal_iff_means own first others, fun _ => means_iff_of_load first⟩
  case taint =>
    intro summary other config second first others
    exact equal_iff_eq_or_null first others

/-- A default state under its alias and without a name, and two summaries of taint
states that differ in the marker only. -/
theorem load_kernel_alias :
    let states : Enumeration :=
      ⟨"Mode", .plain, [⟨"OFF", .number 0⟩, ⟨"NONE", .number 0⟩, ⟨"ON", .number 1⟩]⟩
    let off : State := ⟨states, ⟨"OFF", .number 0⟩, by decide⟩
    let config : Config := ⟨off, true, off⟩
    let bare : Config := ⟨TaintState.null, true, TaintState.null⟩
    load "NONE#IMMUTABLE\n" states off = .ok config ∧
      load "#IMMUTABLE" states off = .ok config ∧
      config.equal config = true ∧
      (∀ state, Means states off (Text.trim "NONE#IMMUTABLE\n".toList) state ↔
        state = off) ∧
      loadTaint " #IMMUTABLE" = .ok bare ∧ loadTaint "NULL" = .ok standard ∧
      bare.equal standard = false := by
  intro states off config bare
  have named : load "NONE#IMMUTABLE\n" states off = .ok config := by decide
  have unnamed : load "#IMMUTABLE" states off = .ok config := by decide
  have marked : loadTaint " #IMMUTABLE" = .ok bare := by decide
  have unmarked : loadTaint "NULL" = .ok standard := by decide
  obtain ⟨meanings, taint⟩ := load_kernel
  have meaning := meanings states off rfl _ _ _ _ named unnamed
  have means := meaning.2
  refine ⟨named, unnamed, meaning.1.mpr ⟨by decide, off, (means off).mpr rfl, ?_⟩, means,
    marked, unmarked, ?_⟩
  · exact (meanings states off rfl _ _ _ _ unnamed named).2 off |>.mpr rfl
  · apply Bool.eq_false_iff.mpr
    rw [ne_eq, taint _ _ _ _ marked unmarked, Set.pair_eq_pair_iff]
    decide

end Config

end ClassTaint
