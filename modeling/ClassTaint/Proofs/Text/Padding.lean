import ClassTaint.Proofs.Text.Trim

namespace ClassTaint.Text

/-! Texts with blanks around them. Trimming takes the blanks off, whatever they
surround, and a trimmed text is told apart from the blanks around it. -/

instance (text : List Char) : Decidable (IsBlankText text) :=
  decidable_of_iff (text.all isBlank = true) List.all_eq_true

structure Padded where
  front : List Char
  content : List Char
  back : List Char
  blankFront : IsBlankText front
  blankBack : IsBlankText back

namespace Padded

def text (padded : Padded) : List Char :=
  padded.front ++ padded.content ++ padded.back

/-- There is a blank at one end at least. -/
def IsProper (padded : Padded) : Prop :=
  padded.front ≠ [] ∨ padded.back ≠ []

/-- Content that is not empty, and could not be any shorter. -/
structure IsTight (padded : Padded) : Prop where
  trimmed : trim padded.content = padded.content
  nonempty : padded.content ≠ []

variable {padded left right : Padded}

theorem trim_text (padded : Padded) : trim padded.text = trim padded.content := by
  rw [text, trim_append_right padded.blankBack, trim_append_left padded.blankFront]

theorem exists_text_eq (text : List Char) :
    ∃ padded : Padded, padded.text = text ∧ padded.content = trim text := by
  obtain ⟨front, back, blankFront, blankBack, whole⟩ := exists_blank_append_trim text
  exact ⟨⟨front, trim text, back, blankFront, blankBack⟩, whole.symm, rfl⟩

theorem trim_text_ne (proper : padded.IsProper) : trim padded.text ≠ padded.text := by
  intro same
  obtain ⟨starts, ends⟩ := trim_eq_self_iff.mp same
  cases proper with
  | inl some =>
      obtain ⟨first, rest, front⟩ := List.exists_cons_of_ne_nil some
      have visible : isBlank first = false := by
        apply starts
        rw [text, front]
        rfl
      have blank := padded.blankFront first (front ▸ List.mem_cons_self)
      cases blank.symm.trans visible
  | inr some =>
      obtain ⟨rest, last, back⟩ := (List.eq_nil_or_concat' _).resolve_left some
      have visible : isBlank last = false := by
        apply ends
        rw [text, back, ← List.append_assoc]
        exact List.getLast?_concat
      have blank := padded.blankBack last (back ▸ List.mem_concat_self)
      cases blank.symm.trans visible

section Letters

variable {letter : Char} (visible : isBlank letter = false)

include visible

theorem not_mem_of_blank {blanks : List Char} (blank : IsBlankText blanks) :
    letter ∉ blanks := by
  intro member
  cases visible.symm.trans (blank letter member)

theorem mem_text_iff : letter ∈ padded.text ↔ letter ∈ padded.content := by
  simp [text, not_mem_of_blank visible padded.blankFront,
    not_mem_of_blank visible padded.blankBack]

end Letters

theorem front_eq (tight : padded.IsTight) :
    padded.front = padded.text.takeWhile isBlank := by
  obtain ⟨first, rest, content⟩ := List.exists_cons_of_ne_nil tight.nonempty
  have visible : isBlank first = false := by
    apply (trim_eq_self_iff.mp tight.trimmed).1
    rw [content]
    rfl
  rw [text, List.append_assoc, List.takeWhile_append_of_pos padded.blankFront, content,
    List.cons_append, List.takeWhile_cons_of_neg (by simp [visible]), List.append_nil]

/-- Tight content and the blanks around it can be read off the text. -/
theorem eq_of_text (tightLeft : left.IsTight) (tightRight : right.IsTight)
    (same : left.text = right.text) : left = right := by
  have fronts : left.front = right.front := by
    rw [front_eq tightLeft, front_eq tightRight, same]
  have contents : left.content = right.content := by
    rw [← tightLeft.trimmed, ← tightRight.trimmed, ← trim_text, ← trim_text, same]
  have backs : left.back = right.back := by
    rw [text, text, fronts, contents] at same
    exact List.append_cancel_left same
  cases left
  cases right
  cases fronts
  cases contents
  cases backs
  rfl

end Padded

end ClassTaint.Text
