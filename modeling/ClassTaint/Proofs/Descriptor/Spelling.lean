import ClassTaint.Descriptor.Spelling
import ClassTaint.Proofs.Descriptor.Extent

namespace ClassTaint

/-! What a spelling means. A descriptor has no blanks at its ends, so that it
spells itself, and any other name spells the class whose path it is once its dots
are slashes. -/

namespace Primitive

theorem not_isBlank_letter (primitive : Primitive) :
    Text.isBlank primitive.letter = false := by
  cases primitive <;> decide

end Primitive

namespace Descriptor

theorem not_isBlank_head_print (descriptor : Descriptor) {first : Char}
    (starts : descriptor.print.head? = some first) :
    Text.isBlank first = false := by
  obtain ⟨levels, element⟩ := descriptor
  cases levels with
  | zero =>
      cases element with
      | primitive type =>
          cases starts
          exact type.not_isBlank_letter
      | object path =>
          cases starts
          decide
  | succ levels =>
      cases starts
      decide

theorem not_isBlank_getLast_print (descriptor : Descriptor) {last : Char}
    (ends : descriptor.print.getLast? = some last) :
    Text.isBlank last = false := by
  obtain ⟨levels, element⟩ := descriptor
  cases element with
  | primitive type =>
      have same : type.letter = last := by
        simpa [print, ElementType.print] using ends
      rw [← same]
      exact type.not_isBlank_letter
  | object path =>
      have shape : print ⟨levels, .object path⟩ =
          (List.replicate levels '[' ++ 'L' :: path.print) ++ [';'] := by
        simp [print, ElementType.print]
      rw [shape, List.getLast?_concat] at ends
      cases ends
      decide

theorem trim_print (descriptor : Descriptor) :
    Text.trim descriptor.print = descriptor.print :=
  Text.trim_eq_self_iff.mpr
    ⟨fun _ starts => descriptor.not_isBlank_head_print starts,
      fun _ ends => descriptor.not_isBlank_getLast_print ends⟩

end Descriptor

theorem trim_of_isDescriptor {text : List Char} (written : isDescriptor text = true) :
    Text.trim text = text := by
  obtain ⟨descriptor, same⟩ := isDescriptor_iff.mp written
  rw [same, descriptor.trim_print]

theorem spelledDescriptor_of_isDescriptor {text : List Char}
    (written : isDescriptor text = true) : spelledDescriptor text = text := by
  simp only [spelledDescriptor, trim_of_isDescriptor written, written, if_true]

def slashed (name : List Char) : List Char :=
  name.map fun letter => if letter = '.' then '/' else letter

/-- The descriptor of the class with a path. -/
def objectText (path : List Char) : List Char :=
  'L' :: path ++ [';']

/-- The path of a class is also that of a primitive if it is one of its letters. -/
def IsPrimitiveText (text : List Char) : Prop :=
  ∃ letter ∈ primitiveLetters, text = [letter]

section Names

variable {name path other : List Char}

theorem spelledDescriptor_of_not_isDescriptor
    (other : isDescriptor (Text.trim name) = false) :
    spelledDescriptor name = objectText (slashed (Text.trim name)) := by
  rw [spelledDescriptor, other]
  rfl

theorem spelledDescriptor_of_trim (written : isDescriptor (Text.trim name) = true) :
    spelledDescriptor name = Text.trim name :=
  if_pos written

theorem objectText_inj : objectText path = objectText other ↔ path = other := by
  simp [objectText]

theorem objectText_ne_self (path : List Char) : path ≠ objectText path := by
  intro same
  have lengths := congrArg List.length same
  simp [objectText] at lengths
  omega

theorem isDescriptor_objectText_iff :
    isDescriptor (objectText path) = true ↔ IsClassPath path := by
  rw [isDescriptor_iff_parts]
  constructor
  · rintro ⟨levels, element, parts⟩
    have whole : objectText path = element.text := parts.text_eq_of_head (by decide)
    cases element with
    | primitive letter => simp [objectText, ElementParts.text] at whole
    | object packages name =>
        exact ⟨packages, name, parts.wellFormed.1, parts.wellFormed.2,
          objectText_inj.mp whole⟩
  · rintro ⟨packages, name, words, named, rfl⟩
    exact ⟨0, .object packages name, ⟨words, named⟩, rfl⟩

theorem slashed_of_not_mem (plain : '.' ∉ name) : slashed name = name := by
  have kept : ∀ letter ∈ name,
      (if letter = '.' then '/' else letter) = letter := by
    intro letter member
    apply if_neg
    rintro rfl
    exact plain member
  rw [slashed, List.map_congr_left kept, List.map_id']

theorem eq_of_slashed (plain : '/' ∉ slashed name) : slashed name = name := by
  apply slashed_of_not_mem
  intro member
  apply plain
  exact List.mem_map.mpr ⟨'.', member, rfl⟩

theorem IsPrimitiveText.slashed_eq (primitive : IsPrimitiveText (slashed name)) :
    slashed name = name := by
  obtain ⟨letter, listed, single⟩ := primitive
  apply eq_of_slashed
  intro member
  rw [single] at member
  cases List.mem_singleton.mp member
  exact absurd listed (by decide)

theorem letter_of_slashed {letter : Char} (member : letter ∈ name) :
    letter = '.' ∨ letter ∈ slashed name := by
  by_cases dot : letter = '.'
  · exact .inl dot
  · exact .inr (List.mem_map.mpr ⟨letter, member, if_neg dot⟩)

theorem trim_of_slashed (classPath : IsClassPath (slashed name)) :
    Text.trim name = name := by
  apply Text.trim_of_no_blank
  intro letter member
  rcases letter_of_slashed member with rfl | inPath
  · decide
  · exact IsDescriptorLetter.not_isBlank (.inl (classPath.letters letter inPath))

theorem isDescriptor_iff_isPrimitiveText (classPath : IsClassPath (slashed name)) :
    isDescriptor name = true ↔ IsPrimitiveText (slashed name) := by
  constructor
  · intro written
    obtain ⟨levels, element, parts⟩ := isDescriptor_iff_parts.mp written
    have plain : '.' ∉ name := by
      intro member
      exact absurd (parts.letters '.' member) (by decide)
    rw [slashed_of_not_mem plain] at classPath ⊢
    have flat : '[' ∉ name := by
      intro member
      exact absurd (classPath.letters '[' member) (by decide)
    have whole := parts.text_eq_of_not_mem flat
    cases element with
    | primitive letter => exact ⟨letter, parts.wellFormed, whole⟩
    | object packages word =>
        have member : ';' ∈ name := by
          rw [whole]
          simp [ElementParts.text]
        exact absurd (classPath.letters ';' member) (by decide)
  · intro primitive
    rw [← primitive.slashed_eq]
    obtain ⟨letter, listed, single⟩ := primitive
    rw [single]
    exact isDescriptor_iff_parts.mpr ⟨0, .primitive letter, listed, rfl⟩

/-- A name spells the descriptor of a class by that descriptor, or by the path of
the class if no primitive has it. -/
theorem spelledDescriptor_eq_objectText_iff (classPath : IsClassPath path) :
    spelledDescriptor name = objectText path ↔
      Text.trim name = objectText path ∨
        (slashed (Text.trim name) = path ∧ ¬ IsPrimitiveText path) := by
  constructor
  · intro same
    cases written : isDescriptor (Text.trim name) with
    | true =>
        rw [spelledDescriptor_of_trim written] at same
        exact .inl same
    | false =>
        rw [spelledDescriptor_of_not_isDescriptor written, objectText_inj] at same
        refine .inr ⟨same, ?_⟩
        rw [← same, ← isDescriptor_iff_isPrimitiveText (same ▸ classPath), written]
        exact Bool.false_ne_true
  · rintro (same | ⟨same, other⟩)
    · rw [spelledDescriptor_of_trim, same]
      rw [same]
      exact isDescriptor_objectText_iff.mpr classPath
    · rw [spelledDescriptor_of_not_isDescriptor, same]
      rw [← same, ← isDescriptor_iff_isPrimitiveText (same ▸ classPath)] at other
      exact Bool.eq_false_iff.mpr other

end Names

section Blanks

variable {front back name path : List Char}

theorem trim_padded (before : Text.IsBlankText front) (after : Text.IsBlankText back)
    (trimmed : Text.trim name = name) : Text.trim (front ++ name ++ back) = name := by
  rw [Text.trim_append_right after, Text.trim_append_left before, trimmed]

theorem trim_objectText (classPath : IsClassPath path) :
    Text.trim (objectText path) = objectText path :=
  trim_of_isDescriptor (isDescriptor_objectText_iff.mpr classPath)

end Blanks

end ClassTaint
