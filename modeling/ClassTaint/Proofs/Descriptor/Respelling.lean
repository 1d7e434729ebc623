import ClassTaint.Proofs.Descriptor.Spelling
import Mathlib.Logic.Function.Iterate

namespace ClassTaint

/-! Spelling what was spelled before. A name that leads to a descriptor is settled
after one step. From any other name each step puts one more wrapping around the
text, and never comes to a descriptor. -/

section Wrappings

variable {name path : List Char}

theorem dot_not_mem_slashed (name : List Char) : '.' ∉ slashed name := by
  intro member
  obtain ⟨letter, -, dot⟩ := List.mem_map.mp member
  split at dot
  · cases dot
  · contradiction

theorem mem_objectText_iff {letter : Char} :
    letter ∈ objectText path ↔ letter = 'L' ∨ letter ∈ path ∨ letter = ';' := by
  simp [objectText]

theorem trim_wrapped (path : List Char) :
    Text.trim (objectText path) = objectText path := by
  apply Text.trim_eq_self_iff.mpr
  constructor
  · intro first starts
    cases starts
    decide
  · intro last ends
    rw [objectText, List.getLast?_concat] at ends
    cases ends
    decide

theorem semicolon_not_mem_of_classPath (classPath : IsClassPath path) :
    ';' ∉ path := by
  intro member
  exact absurd (classPath.letters ';' member) (by decide)

end Wrappings

/-- A text that is no descriptor and has the shape of one that was written out. -/
structure IsMiswritten (text : List Char) : Prop where
  trimmed : Text.trim text = text
  plain : '.' ∉ text
  closed : ';' ∈ text
  other : isDescriptor text = false

namespace IsMiswritten

variable {text : List Char}

theorem ofSpelling {name : List Char}
    (other : isDescriptor (spelledDescriptor name) = false) :
    IsMiswritten (spelledDescriptor name) := by
  have malformed : isDescriptor (Text.trim name) = false := by
    cases written : isDescriptor (Text.trim name) with
    | false => rfl
    | true =>
        rw [spelledDescriptor_of_trim written, written] at other
        cases other
  rw [spelledDescriptor_of_not_isDescriptor malformed] at other ⊢
  refine ⟨trim_wrapped _, ?_, ?_, other⟩
  · rw [mem_objectText_iff]
    intro member
    rcases member with letter | inPath | letter
    · cases letter
    · exact dot_not_mem_slashed _ inPath
    · cases letter
  · rw [mem_objectText_iff]
    exact .inr (.inr rfl)

theorem spelledDescriptor_eq (miswritten : IsMiswritten text) :
    spelledDescriptor text = objectText text := by
  have other := miswritten.other
  rw [← miswritten.trimmed] at other
  rw [spelledDescriptor_of_not_isDescriptor other, miswritten.trimmed,
    slashed_of_not_mem miswritten.plain]

theorem wrap (miswritten : IsMiswritten text) : IsMiswritten (objectText text) where
  trimmed := trim_wrapped text
  plain := by
    rw [mem_objectText_iff]
    intro member
    rcases member with letter | inText | letter
    · cases letter
    · exact miswritten.plain inText
    · cases letter
  closed := by
    rw [mem_objectText_iff]
    exact .inr (.inr rfl)
  other := by
    apply Bool.eq_false_iff.mpr
    intro written
    have classPath := isDescriptor_objectText_iff.mp written
    exact semicolon_not_mem_of_classPath classPath miswritten.closed

theorem iterate (miswritten : IsMiswritten text) (count : Nat) :
    spelledDescriptor^[count] text = objectText^[count] text ∧
      IsMiswritten (objectText^[count] text) := by
  induction count with
  | zero => exact ⟨rfl, miswritten⟩
  | succ count induction =>
      obtain ⟨same, inner⟩ := induction
      rw [Function.iterate_succ_apply', Function.iterate_succ_apply', same]
      exact ⟨inner.spelledDescriptor_eq, inner.wrap⟩

end IsMiswritten

section Kernel

variable {name other : List Char}

theorem isDescriptor_spelledDescriptor_iff :
    isDescriptor (spelledDescriptor name) = true ↔
      isDescriptor (Text.trim name) = true ∨ IsClassPath (slashed (Text.trim name)) := by
  cases written : isDescriptor (Text.trim name) with
  | true =>
      rw [spelledDescriptor_of_trim written, written]
      exact ⟨.inl, fun _ => rfl⟩
  | false =>
      rw [spelledDescriptor_of_not_isDescriptor written, isDescriptor_objectText_iff]
      exact ⟨.inr, fun either => either.resolve_left Bool.false_ne_true⟩

theorem spelledDescriptor_eq_self_iff :
    spelledDescriptor (spelledDescriptor name) = spelledDescriptor name ↔
      isDescriptor (spelledDescriptor name) = true := by
  constructor
  · intro fixed
    cases written : isDescriptor (spelledDescriptor name) with
    | true => rfl
    | false =>
        rw [(IsMiswritten.ofSpelling written).spelledDescriptor_eq] at fixed
        exact absurd fixed.symm (objectText_ne_self _)
  · exact spelledDescriptor_of_isDescriptor

/-- The first text is the descriptor of a class, and the second its name, written
plainly. -/
def IsNamedBy (written name : List Char) : Prop :=
  ∃ path, isDescriptor written = true ∧ written = objectText path ∧
    isDescriptor name = false ∧ slashed name = path

theorem isNamedBy_iff (written : isDescriptor name = true)
    (malformed : isDescriptor other = false) :
    IsNamedBy name other ↔ name = objectText (slashed other) := by
  constructor
  · intro named
    obtain ⟨path, -, shape, -, same⟩ := named
    rw [same]
    exact shape
  · intro same
    exact ⟨slashed other, written, same, malformed, rfl⟩

theorem not_isNamedBy_of_isDescriptor (written : isDescriptor other = true) :
    ¬ IsNamedBy name other := by
  intro named
  obtain ⟨path, -, -, malformed, -⟩ := named
  cases written.symm.trans malformed

theorem not_isNamedBy_of_not_isDescriptor (malformed : isDescriptor name = false) :
    ¬ IsNamedBy name other := by
  intro named
  obtain ⟨path, written, -⟩ := named
  cases written.symm.trans malformed

theorem ne_of_isDescriptor (written : isDescriptor name = true)
    (malformed : isDescriptor other = false) : name ≠ other := by
  intro same
  rw [same, malformed] at written
  cases written

theorem spelledDescriptor_eq_iff :
    spelledDescriptor name = spelledDescriptor other ↔
      Text.trim name = Text.trim other ∨
        (isDescriptor (Text.trim name) = false ∧
          isDescriptor (Text.trim other) = false ∧
          slashed (Text.trim name) = slashed (Text.trim other)) ∨
        IsNamedBy (Text.trim name) (Text.trim other) ∨
        IsNamedBy (Text.trim other) (Text.trim name) := by
  cases first : isDescriptor (Text.trim name) with
  | true =>
      cases second : isDescriptor (Text.trim other) with
      | true =>
          rw [spelledDescriptor_of_trim first, spelledDescriptor_of_trim second]
          simp [not_isNamedBy_of_isDescriptor first, not_isNamedBy_of_isDescriptor second]
      | false =>
          rw [spelledDescriptor_of_trim first,
            spelledDescriptor_of_not_isDescriptor second]
          simp [ne_of_isDescriptor first second, isNamedBy_iff first second,
            not_isNamedBy_of_isDescriptor first]
  | false =>
      cases second : isDescriptor (Text.trim other) with
      | true =>
          rw [spelledDescriptor_of_not_isDescriptor first,
            spelledDescriptor_of_trim second]
          simp [(ne_of_isDescriptor second first).symm, isNamedBy_iff second first,
            not_isNamedBy_of_isDescriptor second, eq_comm]
      | false =>
          rw [spelledDescriptor_of_not_isDescriptor first,
            spelledDescriptor_of_not_isDescriptor second, objectText_inj]
          simp only [not_isNamedBy_of_not_isDescriptor first,
            not_isNamedBy_of_not_isDescriptor second, or_false, true_and]
          constructor
          · exact .inr
          · intro either
            exact either.elim (congrArg slashed) id

end Kernel

/-- Which names lead to descriptors, what further steps do to the others, and
which names mean the same. -/
theorem spelledDescriptor_settles (name : List Char) :
    (isDescriptor (spelledDescriptor name) = true ↔
      isDescriptor (Text.trim name) = true ∨
        IsClassPath (slashed (Text.trim name))) ∧
    (spelledDescriptor (spelledDescriptor name) = spelledDescriptor name ↔
      isDescriptor (spelledDescriptor name) = true) ∧
    (isDescriptor (spelledDescriptor name) = false → ∀ count,
      spelledDescriptor^[count] (spelledDescriptor name) =
          objectText^[count] (spelledDescriptor name) ∧
        isDescriptor (spelledDescriptor^[count] (spelledDescriptor name)) = false) ∧
    ∀ other, spelledDescriptor name = spelledDescriptor other ↔
      Text.trim name = Text.trim other ∨
        (isDescriptor (Text.trim name) = false ∧
          isDescriptor (Text.trim other) = false ∧
          slashed (Text.trim name) = slashed (Text.trim other)) ∨
        (∃ path, isDescriptor (Text.trim name) = true ∧
          Text.trim name = objectText path ∧
          isDescriptor (Text.trim other) = false ∧
          slashed (Text.trim other) = path) ∨
        ∃ path, isDescriptor (Text.trim other) = true ∧
          Text.trim other = objectText path ∧
          isDescriptor (Text.trim name) = false ∧
          slashed (Text.trim name) = path := by
  refine ⟨isDescriptor_spelledDescriptor_iff, spelledDescriptor_eq_self_iff, ?_,
    fun other => spelledDescriptor_eq_iff⟩
  intro malformed count
  obtain ⟨same, inner⟩ := (IsMiswritten.ofSpelling malformed).iterate count
  refine ⟨same, ?_⟩
  rw [same]
  exact inner.other

end ClassTaint
