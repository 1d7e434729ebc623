import ClassTaint.Proofs.Enumeration.Naming

namespace ClassTaint.State

/-! When two states are equal. A state of a plain enumeration equals itself only.
A state with a base equals the states of all enumerations of that base that have
its value, which in its own enumeration is no other state. -/

/-- The states are members of one base, which compares them by their values. -/
structure SharesValue (left right : State) : Prop where
  base : left.enumeration.base = right.enumeration.base
  based : left.enumeration.base ≠ .plain
  value : left.member.value = right.member.value

variable {left right other : State}

theorem SharesValue.symm (shared : left.SharesValue right) :
    right.SharesValue left where
  base := shared.base.symm
  based := shared.base ▸ shared.based
  value := shared.value.symm

theorem SharesValue.trans (first : left.SharesValue right)
    (second : right.SharesValue other) : left.SharesValue other where
  base := first.base.trans second.base
  based := first.based
  value := first.value.trans second.value

theorem sharesValue_iff :
    left.SharesValue right ↔
      (left.enumeration.base = .text ∧ right.enumeration.base = .text ∨
        left.enumeration.base = .number ∧ right.enumeration.base = .number) ∧
      left.member.value = right.member.value := by
  constructor
  · intro shared
    refine ⟨?_, shared.value⟩
    have same := shared.base
    cases base : left.enumeration.base with
    | plain => exact absurd base shared.based
    | text => exact .inl ⟨rfl, same.symm.trans base⟩
    | number => exact .inr ⟨rfl, same.symm.trans base⟩
  · intro alike
    obtain ⟨bases, value⟩ := alike
    cases bases with
    | inl texts => exact ⟨texts.1.trans texts.2.symm, by simp [texts.1], value⟩
    | inr numbers =>
        exact ⟨numbers.1.trans numbers.2.symm, by simp [numbers.1], value⟩

theorem equal_self (state : State) : state.equal state = true := by
  unfold equal
  cases state.enumeration.base with
  | plain => simp
  | text => simp
  | number => simp

theorem SharesValue.equal (shared : left.SharesValue right) :
    left.equal right = true := by
  have based := shared.based
  unfold State.equal
  rw [← shared.base]
  cases base : left.enumeration.base with
  | plain => exact absurd base based
  | text => simp [shared.value]
  | number => simp [shared.value]

theorem equal_iff :
    left.equal right = true ↔ left = right ∨ left.SharesValue right := by
  constructor
  · intro same
    unfold State.equal at same
    split at same
    · exact .inl (of_decide_eq_true same)
    · rename_i base others
      exact .inr ⟨base.trans others.symm, by simp [base], of_decide_eq_true same⟩
    · rename_i base others
      exact .inr ⟨base.trans others.symm, by simp [base], of_decide_eq_true same⟩
    · cases same
  · intro related
    cases related with
    | inl same => exact same ▸ left.equal_self
    | inr shared => exact shared.equal

theorem equivalence_equal :
    Equivalence fun left right : State => left.equal right = true where
  refl := equal_self
  symm := by
    intro left right same
    cases equal_iff.mp same with
    | inl identical => exact identical ▸ left.equal_self
    | inr shared => exact shared.symm.equal
  trans := by
    intro left right other first second
    cases equal_iff.mp first with
    | inl identical => exact identical ▸ second
    | inr shared =>
        cases equal_iff.mp second with
        | inl identical => exact identical ▸ first
        | inr others => exact (shared.trans others).equal

/-- Names of one value are names of one state, so equal states of an enumeration
are the same. -/
theorem equal_iff_of_enumeration (one : left.enumeration = right.enumeration) :
    left.equal right = true ↔ left = right := by
  rw [equal_iff]
  constructor
  · intro related
    cases related with
    | inl same => exact same
    | inr shared => exact eq_of_value one shared.value
  · exact .inl

theorem equal_iff_of_apart (apart : left.enumeration ≠ right.enumeration) :
    left.equal right = true ↔ left.SharesValue right := by
  rw [equal_iff]
  constructor
  · intro related
    cases related with
    | inl same => exact absurd (congrArg State.enumeration same) apart
    | inr shared => exact shared
  · exact .inr

end ClassTaint.State
