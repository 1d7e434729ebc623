import ClassTaint.Enumeration

namespace ClassTaint

/-! What a name in an enumeration stands for. All members with one value are
names of one state, which is found under each of them. -/

/-- In one enumeration a value has one state. -/
theorem State.eq_of_value {left right : State}
    (enumeration : left.enumeration = right.enumeration)
    (value : left.member.value = right.member.value) : left = right := by
  obtain ⟨states, first, canonical⟩ := left
  obtain ⟨_, second, others⟩ := right
  cases enumeration
  have same : first = second := by
    apply Option.some.inj
    rw [← canonical, ← others]
    exact congrArg states.holder? value
  cases same
  rfl

namespace Enumeration

def HasName (states : Enumeration) (name : String) : Prop :=
  ∃ member ∈ states.members, member.name = name

/-- The state under a name has the value of the first member so called. -/
structure Denotes (states : Enumeration) (name : String) (state : State) :
    Prop where
  enumeration : state.enumeration = states
  value : ∃ before named after,
    states.members = before ++ named :: after ∧ named.name = name ∧
      (∀ earlier ∈ before, earlier.name ≠ name) ∧
      named.value = state.member.value

variable {states : Enumeration} {name : String}

theorem named?_eq_some_iff {member : Member} :
    states.named? name = some member ↔
      ∃ before after, states.members = before ++ member :: after ∧
        member.name = name ∧ ∀ earlier ∈ before, earlier.name ≠ name := by
  unfold named?
  rw [List.find?_eq_some_iff_append]
  constructor
  · rintro ⟨same, before, after, whole, first⟩
    refine ⟨before, after, whole, by simpa using same, ?_⟩
    simpa using first
  · rintro ⟨before, after, whole, same, first⟩
    refine ⟨by simpa using same, before, after, whole, ?_⟩
    simpa using first

theorem named?_eq_none_iff :
    states.named? name = none ↔ ¬ states.HasName name := by
  simp [named?, HasName]

theorem value_of_holder? {value : MemberValue} {holder : Member}
    (held : states.holder? value = some holder) : holder.value = value := by
  simpa using List.find?_some held

theorem exists_holder {member : Member} (present : member ∈ states.members) :
    ∃ holder, states.holder? member.value = some holder := by
  cases held : states.holder? member.value with
  | none =>
      have different := List.find?_eq_none.mp held member present
      simp at different
  | some holder => exact ⟨holder, rfl⟩

variable {state : State}

theorem Denotes.hasName (denotes : states.Denotes name state) :
    states.HasName name := by
  obtain ⟨before, named, after, whole, same, -⟩ := denotes.value
  exact ⟨named, by simp [whole], same⟩

theorem Denotes.unique {other : State} (first : states.Denotes name state)
    (second : states.Denotes name other) : state = other := by
  obtain ⟨before, named, after, whole, same, earlier, value⟩ := first.value
  obtain ⟨front, member, back, split, called, prior, held⟩ := second.value
  have one := named?_eq_some_iff.mpr ⟨before, after, whole, same, earlier⟩
  have two := named?_eq_some_iff.mpr ⟨front, back, split, called, prior⟩
  have values : named.value = member.value :=
    congrArg Member.value (Option.some.inj (one.symm.trans two))
  apply State.eq_of_value
  · exact first.enumeration.trans second.enumeration.symm
  · exact value.symm.trans (values.trans held)

end Enumeration

namespace State

variable {states : Enumeration} {name : String} {state : State}

theorem denotes_of_named? (found : named? states name = some state) :
    states.Denotes name state := by
  unfold named? at found
  split at found
  · cases found
  · rename_i alternative named
    split at found
    · cases found
    · rename_i member held
      cases found
      obtain ⟨before, after, whole, same, earlier⟩ :=
        Enumeration.named?_eq_some_iff.mp named
      exact ⟨rfl, before, alternative, after, whole, same, earlier,
        (Enumeration.value_of_holder? held).symm⟩

theorem named?_eq_none_iff :
    named? states name = none ↔ ¬ states.HasName name := by
  constructor
  · intro missing present
    unfold named? at missing
    split at missing
    · rename_i refused
      exact Enumeration.named?_eq_none_iff.mp refused present
    · rename_i alternative named
      obtain ⟨holder, held⟩ :=
        Enumeration.exists_holder (List.mem_of_find?_eq_some named)
      split at missing
      · rename_i refused
        rw [held] at refused
        cases refused
      · cases missing
  · intro absent
    cases found : named? states name with
    | none => rfl
    | some state => exact absurd (denotes_of_named? found).hasName absent

theorem named?_eq_some_iff :
    named? states name = some state ↔ states.Denotes name state := by
  constructor
  · exact denotes_of_named?
  · intro denotes
    cases found : named? states name with
    | none => exact absurd denotes.hasName (named?_eq_none_iff.mp found)
    | some other => rw [(denotes_of_named? found).unique denotes]

end State

theorem Enumeration.HasName.exists_denotes {states : Enumeration} {name : String}
    (present : states.HasName name) : ∃ state, states.Denotes name state := by
  cases found : State.named? states name with
  | none => exact absurd present (State.named?_eq_none_iff.mp found)
  | some state => exact ⟨state, State.denotes_of_named? found⟩

end ClassTaint
