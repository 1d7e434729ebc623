import ClassTaint.Value

namespace ClassTaint

/-! Which values can be written. Everything that is met on the way has to be within the
calls that can be open at once, and no integer may be too long. -/

namespace Value

/-- What a value holds, as far as it is written by itself. -/
def parts : Value → List Value
  | list items => items
  | mapping pairs => pairs.flatMap fun (key, value) => [key, value]
  | set members => members
  | _ => []

/-- A part is met in writing a value while so many calls are open. -/
inductive Meets : Value → Nat → Value → Prop
  | self {value : Value} : Meets value 0 value
  | part {whole part inner : Value} {calls : Nat} (member : part ∈ whole.parts)
      (meets : Meets part calls inner) : Meets whole (whole.ownCalls + calls) inner

/-- All that is met in writing a value is within so many calls, and no integer in it is
too long. -/
def IsWrittenWithin (calls : Nat) (value : Value) : Prop :=
  ∀ before part, value.Meets before part →
    before + part.ownCalls ≤ calls ∧
      ∀ number, part = integer number → Number.isWritable number = true

/-- What stands in the way of writing a value, apart from what it holds. -/
def ownFault? : Value → Option WritingFault
  | integer number => if Number.isWritable number then none else some .longNumber
  | _ => none

theorem sizeOf_lt_of_mem_parts {whole part : Value} (member : part ∈ whole.parts) :
    sizeOf part < sizeOf whole := by
  cases whole with
  | list items =>
      have smaller : sizeOf part < sizeOf items := List.sizeOf_lt_of_mem member
      rw [list.sizeOf_spec]
      omega
  | mapping pairs =>
      obtain ⟨⟨key, value⟩, pair, here⟩ := List.mem_flatMap.mp member
      have smaller := List.sizeOf_lt_of_mem pair
      rw [Prod.mk.sizeOf_spec] at smaller
      rw [mapping.sizeOf_spec]
      rcases List.mem_cons.mp here with rfl | here
      · omega
      · cases List.mem_singleton.mp here
        omega
  | set members =>
      have smaller : sizeOf part < sizeOf members := List.sizeOf_lt_of_mem member
      rw [set.sizeOf_spec]
      omega
  | _ => cases member

theorem itemsFaultWithin?_eq (calls : Nat) (items : List Value) :
    itemsFaultWithin? calls items = items.findSome? (faultWithin? calls) := by
  induction items with
  | nil => rfl
  | cons first rest induction =>
      rw [itemsFaultWithin?, induction, List.findSome?_cons]
      cases first.faultWithin? calls <;> rfl

theorem pairsFaultWithin?_eq (calls : Nat) (pairs : List (Value × Value)) :
    pairsFaultWithin? calls pairs =
      (pairs.flatMap fun (key, value) => [key, value]).findSome? (faultWithin? calls) := by
  induction pairs with
  | nil => rfl
  | cons pair rest induction =>
      obtain ⟨key, value⟩ := pair
      simp only [pairsFaultWithin?, induction, List.flatMap_cons, List.cons_append,
        List.nil_append, List.findSome?_cons]
      cases key.faultWithin? calls with
      | some fault => rfl
      | none => cases value.faultWithin? calls <;> rfl

/-- A value is looked at before its parts, and these are looked at one after the
other. -/
theorem faultWithin?_eq (calls : Nat) (value : Value) :
    value.faultWithin? calls =
      if calls < value.ownCalls then some .tooDeep
      else
        value.ownFault?.or
          (value.parts.findSome? (faultWithin? (calls - value.ownCalls))) := by
  rw [faultWithin?.eq_def]
  cases value with
  | list items => simp only [itemsFaultWithin?_eq, ownFault?, parts, Option.none_or]
  | mapping pairs => simp only [pairsFaultWithin?_eq, ownFault?, parts, Option.none_or]
  | set members => simp only [itemsFaultWithin?_eq, ownFault?, parts, Option.none_or]
  | _ => simp only [ownFault?, parts, List.findSome?_nil, Option.or_none]

theorem ownFault?_eq_none_iff {value : Value} :
    value.ownFault? = none ↔
      ∀ number, value = integer number → Number.isWritable number = true := by
  cases value with
  | integer number => simp [ownFault?]
  | _ => simp [ownFault?]

theorem faultWithin?_eq_none_iff {calls : Nat} {value : Value} :
    value.faultWithin? calls = none ↔ value.IsWrittenWithin calls := by
  rw [faultWithin?_eq]
  constructor
  · intro free before part meets
    split at free
    · cases free
    · rename_i enough
      obtain ⟨own, parts⟩ := Option.or_eq_none_iff.mp free
      cases meets with
      | self => exact ⟨by omega, ownFault?_eq_none_iff.mp own⟩
      | part member meets =>
          have inside := List.findSome?_eq_none_iff.mp parts _ member
          obtain ⟨bound, short⟩ := faultWithin?_eq_none_iff.mp inside _ _ meets
          exact ⟨by omega, short⟩
  · intro written
    obtain ⟨enough, own⟩ := written 0 value .self
    rw [if_neg (by omega), ownFault?_eq_none_iff.mpr own, Option.none_or,
      List.findSome?_eq_none_iff]
    intro part member
    rw [faultWithin?_eq_none_iff]
    intro before inner meets
    obtain ⟨bound, short⟩ := written _ inner (.part member meets)
    exact ⟨by omega, short⟩
-- Parts stand in lists and in pairs, so it is their size that gets smaller.
termination_by sizeOf value
decreasing_by all_goals exact sizeOf_lt_of_mem_parts ‹_›

theorem isWritable_iff {value : Value} :
    value.isWritable = true ↔ value.IsWrittenWithin deepestWriting := by
  rw [isWritable, Option.isNone_iff_eq_none, writingFault?, faultWithin?_eq_none_iff]

/-- A list with nothing in it, inside of so many others. -/
def nestedList : Nat → Value
  | 0 => list []
  | depth + 1 => list [nestedList depth]

theorem faultWithin?_nestedList (calls depth : Nat) :
    (nestedList depth).faultWithin? calls =
      if depth < calls then none else some .tooDeep := by
  induction depth generalizing calls with
  | zero => cases calls <;> rfl
  | succ depth induction =>
      rw [nestedList, faultWithin?_eq]
      cases calls with
      | zero => rfl
      | succ calls =>
          simp only [ownCalls, ownFault?, parts, List.findSome?_singleton, induction,
            Option.none_or, Nat.add_sub_cancel, Nat.add_lt_add_iff_right]
          exact if_neg (by omega)

theorem writingFault?_nestedList (depth : Nat) :
    (nestedList depth).writingFault? =
      if depth < deepestWriting then none else some .tooDeep :=
  faultWithin?_nestedList deepestWriting depth

end Value

end ClassTaint
