import ClassTaint.Proofs.Config.Resolution
import Mathlib.Data.Set.Card

namespace ClassTaint.Config

/-! Equal configurations. They agree on all that can be asked of them, whatever
enumerations their states come from, and the number of different ones in a list is
that of their kinds. -/

variable {left right config other : Config}

theorem equal_iff :
    left.equal right = true ↔
      left.taintState.equal right.taintState = true ∧
        left.immutable = right.immutable ∧
        left.defaultState.equal right.defaultState = true := by
  simp [equal, and_assoc]

theorem equivalence_equal :
    Equivalence fun left right : Config => left.equal right = true where
  refl config := equal_iff.mpr
    ⟨config.taintState.equal_self, rfl, config.defaultState.equal_self⟩
  symm := by
    intro left right same
    obtain ⟨taint, immutable, standard⟩ := equal_iff.mp same
    exact equal_iff.mpr ⟨State.equivalence_equal.symm taint, immutable.symm,
      State.equivalence_equal.symm standard⟩
  trans := by
    intro left right other first second
    obtain ⟨taint, immutable, standard⟩ := equal_iff.mp first
    obtain ⟨taints, immutables, standards⟩ := equal_iff.mp second
    exact equal_iff.mpr ⟨State.equivalence_equal.trans taint taints,
      immutable.trans immutables, State.equivalence_equal.trans standard standards⟩

/-- Whether the two states of a configuration are equal does not depend on which of
their equals stand in it. -/
theorem hasExplicitState_eq_of_equal (same : left.equal right = true) :
    left.hasExplicitState = right.hasExplicitState := by
  obtain ⟨taint, -, standard⟩ := equal_iff.mp same
  have unset : left.hasExplicitState = false ↔ right.hasExplicitState = false := by
    rw [hasExplicitState_eq_false_iff, hasExplicitState_eq_false_iff]
    constructor
    · intro equal
      exact State.equivalence_equal.trans (State.equivalence_equal.symm taint)
        (State.equivalence_equal.trans equal standard)
    · intro equal
      exact State.equivalence_equal.trans taint
        (State.equivalence_equal.trans equal (State.equivalence_equal.symm standard))
  cases explicit : right.hasExplicitState with
  | false => exact unset.mpr explicit
  | true => simpa [explicit] using unset

theorem equal_resolve (same : left.equal right = true) {first second : State}
    (states : first.equal second = true) :
    (left.resolve first).equal (right.resolve second) = true := by
  have flags := hasExplicitState_eq_of_equal same
  cases explicit : left.hasExplicitState with
  | false =>
      rw [resolve_of_unset explicit, resolve_of_unset (flags ▸ explicit)]
      exact states
  | true =>
      rw [resolve_of_explicit explicit, resolve_of_explicit (flags ▸ explicit)]
      exact (equal_iff.mp same).1

theorem resolve_resolve (config : Config) (state : State) :
    config.resolve (config.resolve state) = config.resolve state := by
  cases explicit : config.hasExplicitState with
  | false => exact resolve_of_unset explicit _
  | true => rw [resolve_of_explicit explicit, resolve_of_explicit explicit]

theorem equal_resolve_default (config : Config) :
    (config.resolve config.defaultState).equal config.taintState = true := by
  cases explicit : config.hasExplicitState with
  | false =>
      rw [resolve_of_unset explicit]
      exact State.equivalence_equal.symm (hasExplicitState_eq_false_iff.mp explicit)
  | true =>
      rw [resolve_of_explicit explicit]
      exact config.taintState.equal_self

/-- All configurations that equal the given one. -/
def kind (config : Config) : Set Config :=
  { other | config.equal other = true }

theorem kind_eq_iff : left.kind = right.kind ↔ left.equal right = true := by
  constructor
  · intro same
    have member : right ∈ left.kind := by
      rw [same]
      exact equivalence_equal.refl right
    exact member
  · intro same
    ext other
    constructor
    · exact equivalence_equal.trans (equivalence_equal.symm same)
    · exact equivalence_equal.trans same

def kinds (configs : List Config) : Set (Set Config) :=
  { kind | ∃ config ∈ configs, kind = config.kind }

theorem kinds_eq_image (configs : List Config) :
    kinds configs = kind '' { config | config ∈ configs } := by
  ext kind
  simp [kinds, eq_comm]

theorem finite_kinds (configs : List Config) : (kinds configs).Finite := by
  rw [kinds_eq_image]
  exact (List.finite_toSet configs).image kind

theorem kinds_cons (config : Config) (rest : List Config) :
    kinds (config :: rest) = insert config.kind (kinds rest) := by
  ext kind
  simp [kinds]

theorem kinds_append (configs others : List Config) :
    kinds (configs ++ others) = kinds configs ∪ kinds others := by
  ext kind
  simp [kinds, or_and_right, exists_or]

theorem kinds_mono {configs others : List Config} (within : configs ⊆ others) :
    kinds configs ⊆ kinds others := by
  intro kind present
  obtain ⟨config, member, same⟩ := present
  exact ⟨config, within member, same⟩

theorem kind_mem_kinds_iff {configs : List Config} :
    config.kind ∈ kinds configs ↔ configs.any config.equal = true := by
  simp [kinds, kind_eq_iff]

theorem countDistinct_eq_ncard (configs : List Config) :
    countDistinct configs = (kinds configs).ncard := by
  induction configs with
  | nil => simp [countDistinct, kinds]
  | cons config rest induction =>
      rw [kinds_cons, countDistinct, induction]
      cases seen : rest.any config.equal with
      | true =>
          rw [Set.ncard_insert_of_mem (kind_mem_kinds_iff.mpr seen)]
          rfl
      | false =>
          have fresh : config.kind ∉ kinds rest := by
            simp [kind_mem_kinds_iff, seen]
          rw [Set.ncard_insert_of_notMem fresh (finite_kinds rest)]
          rfl

theorem countDistinct_eq_of_kinds {configs others : List Config}
    (same : kinds configs = kinds others) :
    countDistinct configs = countDistinct others := by
  rw [countDistinct_eq_ncard, countDistinct_eq_ncard, same]

/-- Equality of configurations is an equivalence that every question about them
respects, and lists are counted up to it. -/
theorem equal_congruence :
    Equivalence (fun left right : Config => left.equal right = true) ∧
    (∀ left right : Config, left.equal right = true ↔
      left.taintState.equal right.taintState = true ∧
        left.immutable = right.immutable ∧
        left.defaultState.equal right.defaultState = true) ∧
    (∀ left right : Config, left.equal right = true →
      left.immutable = right.immutable ∧
      left.hasExplicitState = right.hasExplicitState ∧
      ∀ first second : State, first.equal second = true →
        (left.resolve first).equal (right.resolve second) = true) ∧
    (∀ (config : Config) (state : State),
      config.resolve (config.resolve state) = config.resolve state ∧
      (config.resolve config.defaultState).equal config.taintState = true) ∧
    (∀ configs : List Config, countDistinct configs =
      { kind : Set Config | ∃ config ∈ configs,
        kind = { other | config.equal other = true } }.ncard) ∧
    (∀ configs others : List Config, configs.Perm others →
      countDistinct configs = countDistinct others) ∧
    (∀ configs repeated : List Config, repeated ⊆ configs →
      countDistinct (configs ++ repeated) = countDistinct configs) ∧
    ∀ (before after : List Config) (config other : Config),
      config.equal other = true →
      countDistinct (before ++ config :: after) =
        countDistinct (before ++ other :: after) := by
  refine ⟨equivalence_equal, fun _ _ => equal_iff, ?congruence, ?resolved,
    countDistinct_eq_ncard, ?permuted, ?repeated, ?replaced⟩
  case congruence =>
    intro left right same
    exact ⟨(equal_iff.mp same).2.1, hasExplicitState_eq_of_equal same,
      fun _ _ states => equal_resolve same states⟩
  case resolved =>
    intro config state
    exact ⟨resolve_resolve config state, equal_resolve_default config⟩
  case permuted =>
    intro configs others permuted
    apply countDistinct_eq_of_kinds
    exact (kinds_mono permuted.subset).antisymm (kinds_mono permuted.symm.subset)
  case repeated =>
    intro configs repeated within
    apply countDistinct_eq_of_kinds
    rw [kinds_append]
    exact Set.union_eq_left.mpr (kinds_mono within)
  case replaced =>
    intro before after config other same
    apply countDistinct_eq_of_kinds
    rw [kinds_append, kinds_append, kinds_cons, kinds_cons, kind_eq_iff.mpr same]

/-- A state with a base and one of another enumeration that shares its value stand
for each other, also inside a list. -/
theorem equal_congruence_foreign :
    let states : Enumeration := ⟨"Mode", .text, [⟨"OFF", .text "NULL"⟩]⟩
    let off : State := ⟨states, ⟨"OFF", .text "NULL"⟩, by decide⟩
    let config : Config := ⟨off, true, TaintState.null⟩
    let other : Config := ⟨TaintState.null, true, off⟩
    config ≠ other ∧ config.equal other = true ∧
      (config.resolve off).equal (other.resolve TaintState.null) = true ∧
      countDistinct [standard, config, other] =
        countDistinct [standard, other, other] := by
  intro states off config other
  have same : config.equal other = true := by decide
  obtain ⟨-, -, congruence, -, -, -, -, replaced⟩ := equal_congruence
  refine ⟨by decide, same, ?_, replaced [standard] [other] config other same⟩
  exact (congruence config other same).2.2 off TaintState.null (by decide)

end ClassTaint.Config
