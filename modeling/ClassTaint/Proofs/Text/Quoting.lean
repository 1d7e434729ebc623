import ClassTaint.Text.Quoted

namespace ClassTaint.Text

/-! Texts that stand between quotes as they are. Plain ASCII characters other than
the quote and the backslash need no escape. -/

/-- The characters from the space to the tilde that are never escaped between
single quotes. -/
def IsPlain (character : Char) : Prop :=
  0x20 ≤ character.toNat ∧ character.toNat ≤ 0x7E ∧ character ≠ '\'' ∧
    character ≠ '\\'

variable {character : Char}

theorem isPrintable_of_range (lower : 0x20 ≤ character.toNat)
    (upper : character.toNat ≤ 0x7E) : isPrintable character = true := by
  apply List.any_eq_true.mpr
  refine ⟨(0x20, 0x7E), List.mem_cons_self, ?_⟩
  simp [lower, upper]

theorem IsPlain.isPrintable (plain : IsPlain character) :
    isPrintable character = true :=
  isPrintable_of_range plain.1 plain.2.1

theorem IsPlain.ne_of_control (plain : IsPlain character) {control : Char}
    (below : control.toNat < 0x20) : character ≠ control := by
  rintro rfl
  exact absurd plain.1 (Nat.not_le.mpr below)

theorem quotedCharacter_of_isPlain (plain : IsPlain character) :
    quotedCharacter '\'' character = [character] := by
  have tab : character ≠ '\t' := plain.ne_of_control (by decide)
  have line : character ≠ '\n' := plain.ne_of_control (by decide)
  have carriage : character ≠ '\r' := plain.ne_of_control (by decide)
  simp [quotedCharacter, plain.2.2.1, plain.2.2.2, tab, line, carriage,
    plain.isPrintable]

theorem quotedCharacters_of_isPlain {text : List Char}
    (plain : ∀ character ∈ text, IsPlain character) :
    quotedCharacters text = '\'' :: text ++ ['\''] := by
  have kept : text.flatMap (quotedCharacter '\'') = text := by
    induction text with
    | nil => rfl
    | cons first rest induction =>
        obtain ⟨first, others⟩ := List.forall_mem_cons.mp plain
        rw [List.flatMap_cons, quotedCharacter_of_isPlain first,
          induction others]
        rfl
  have single : quoteFor text = '\'' := by
    have absent : '\'' ∉ text := fun member => (plain _ member).2.2.1 rfl
    simp [quoteFor, absent]
  rw [quotedCharacters, single, kept]

theorem quoted_of_isPlain {text : String}
    (plain : ∀ character ∈ text.toList, IsPlain character) :
    quoted text = "'" ++ text ++ "'" := by
  apply String.toList_inj.mp
  rw [quoted, quotedCharacters_of_isPlain plain]
  simp

end ClassTaint.Text
