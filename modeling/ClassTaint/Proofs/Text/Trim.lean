import ClassTaint.Text.Blank
import Mathlib.Data.List.DropRight

namespace ClassTaint.Text

/-! The ends of a trimmed text. No blank stands at either end of it, and a text
without blanks at its ends is trimmed already. -/

theorem toNat_range {letter first last : Char}
    (range : first ≤ letter ∧ letter ≤ last) :
    first.toNat ≤ letter.toNat ∧ letter.toNat ≤ last.toNat := by
  obtain ⟨lower, upper⟩ := range
  rw [Char.le_def, UInt32.le_iff_toNat_le] at lower upper
  exact ⟨lower, upper⟩

/-- Between the space and the deleting control no code point is blank. -/
theorem not_isBlank_of_range {character : Char} (above : 0x20 < character.toNat)
    (below : character.toNat < 0x7F) : isBlank character = false := by
  simp [isBlank, blankRanges]
  omega

theorem trimRight_eq_rdropWhile (text : List Char) :
    trimRight text = text.rdropWhile isBlank := rfl

theorem not_isBlank_head_trimLeft (text : List Char) {first : Char}
    (starts : (trimLeft text).head? = some first) : isBlank first = false := by
  have stops := List.head?_dropWhile_not isBlank text
  rw [show text.dropWhile isBlank = trimLeft text from rfl, starts] at stops
  exact stops

theorem isPrefix_trimRight (text : List Char) : trimRight text <+: text :=
  List.rdropWhile_prefix isBlank text

theorem not_isBlank_head_trim (text : List Char) {first : Char}
    (starts : (trim text).head? = some first) : isBlank first = false := by
  apply not_isBlank_head_trimLeft text
  rw [← List.singleton_prefix_iff_head?_eq_some] at starts ⊢
  exact starts.trans (isPrefix_trimRight (trimLeft text))

theorem not_isBlank_head_of_prefix {front text : List Char} {first : Char}
    (leads : front <+: trim text)
    (starts : front.head? = some first) : isBlank first = false := by
  apply not_isBlank_head_trim text
  rw [← List.singleton_prefix_iff_head?_eq_some] at starts ⊢
  exact starts.trans leads

theorem not_isBlank_getLast_trim (text : List Char) {last : Char}
    (ends : (trim text).getLast? = some last) : isBlank last = false := by
  obtain ⟨front, shape⟩ := List.getLast?_eq_some_iff.mp ends
  have nonempty : (trimLeft text).rdropWhile isBlank ≠ [] := by
    rw [← trimRight_eq_rdropWhile]
    change trim text ≠ []
    simp [shape]
  have stops := List.rdropWhile_last_not isBlank (trimLeft text) nonempty
  have same : ((trimLeft text).rdropWhile isBlank).getLast nonempty = last := by
    apply Option.some.inj
    rw [← List.getLast?_eq_some_getLast, ← ends]
    rfl
  rw [same] at stops
  simpa using stops

theorem trimLeft_of_head {text : List Char}
    (starts : ∀ first ∈ text.head?, isBlank first = false) :
    trimLeft text = text := by
  cases text with
  | nil => rfl
  | cons first rest => simp [trimLeft, starts first rfl]

theorem trimRight_of_getLast {text : List Char}
    (ends : ∀ last ∈ text.getLast?, isBlank last = false) :
    trimRight text = text := by
  unfold trimRight
  rw [trimLeft_of_head, List.reverse_reverse]
  intro last member
  rw [List.head?_reverse] at member
  exact ends last member

theorem trim_eq_self_iff {text : List Char} :
    trim text = text ↔
      (∀ first ∈ text.head?, isBlank first = false) ∧
        ∀ last ∈ text.getLast?, isBlank last = false := by
  constructor
  · intro same
    constructor
    · intro first starts
      apply not_isBlank_head_trim text
      rw [same]
      exact starts
    · intro last ends
      apply not_isBlank_getLast_trim text
      rw [same]
      exact ends
  · rintro ⟨starts, ends⟩
    rw [trim, trimLeft_of_head starts, trimRight_of_getLast ends]

@[simp] theorem trim_trim (text : List Char) : trim (trim text) = trim text :=
  trim_eq_self_iff.mpr
    ⟨fun _ starts => not_isBlank_head_trim text starts,
      fun _ ends => not_isBlank_getLast_trim text ends⟩

theorem trim_of_no_blank {text : List Char}
    (plain : ∀ character ∈ text, isBlank character = false) :
    trim text = text :=
  trim_eq_self_iff.mpr
    ⟨fun first starts => plain first (List.mem_of_head? starts),
      fun last ends => plain last (List.mem_of_getLast? ends)⟩

end ClassTaint.Text
