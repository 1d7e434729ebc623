import ClassTaint.Proofs.Text.Quoting
import ClassTaint.Text.Blank

namespace ClassTaint.Text

/-! Texts of printable characters. No control, format character or separator other
than the space is printable, and a quoted text is, whatever it quotes. -/

/-- The code points of category Cc. -/
def controlRanges : List (Nat × Nat) :=
  [(0x00, 0x1F), (0x7F, 0x9F)]

/-- The code points of category Cf. -/
def formatRanges : List (Nat × Nat) :=
  [(0xAD, 0xAD), (0x600, 0x605), (0x61C, 0x61C), (0x6DD, 0x6DD), (0x70F, 0x70F),
    (0x890, 0x891), (0x8E2, 0x8E2), (0x180E, 0x180E), (0x200B, 0x200F), (0x202A, 0x202E),
    (0x2060, 0x2064), (0x2066, 0x206F), (0xFEFF, 0xFEFF), (0xFFF9, 0xFFFB),
    (0x110BD, 0x110BD), (0x110CD, 0x110CD), (0x13430, 0x13438), (0x1BCA0, 0x1BCA3),
    (0x1D173, 0x1D17A), (0xE0001, 0xE0001), (0xE0020, 0xE007F)]

/-- The code points of the categories Zl, Zp and Zs but the space. -/
def separatorRanges : List (Nat × Nat) :=
  [(0xA0, 0xA0), (0x1680, 0x1680), (0x2000, 0x200A), (0x2028, 0x2029), (0x202F, 0x202F),
    (0x205F, 0x205F), (0x3000, 0x3000)]

/-- The character shapes a line without being seen in it, or ends it. -/
def IsHidden (character : Char) : Prop :=
  ∃ range ∈ controlRanges ++ formatRanges ++ separatorRanges,
    range.1 ≤ character.toNat ∧ character.toNat ≤ range.2

def IsPrintableText (text : String) : Prop :=
  ∀ character ∈ text.toList, isPrintable character = true

instance (text : String) : Decidable (IsPrintableText text) :=
  decidable_of_iff (text.toList.all isPrintable = true) List.all_eq_true

section Characters

variable {character : Char}

theorem exists_range_of_isPrintable (printable : isPrintable character = true) :
    ∃ range ∈ printableRanges,
      range.1 ≤ character.toNat ∧ character.toNat ≤ range.2 := by
  obtain ⟨range, member, inside⟩ := List.any_eq_true.mp printable
  rw [Bool.and_eq_true, decide_eq_true_iff, decide_eq_true_iff] at inside
  exact ⟨range, member, inside⟩

theorem not_isHidden_of_isPrintable (printable : isPrintable character = true) :
    ¬ IsHidden character := by
  have apart : ((controlRanges ++ formatRanges ++ separatorRanges).all fun hidden =>
      printableRanges.all fun range =>
        range.2.blt hidden.1 || hidden.2.blt range.1) = true := by decide +kernel
  intro hidden
  obtain ⟨range, member, lower, upper⟩ := exists_range_of_isPrintable printable
  obtain ⟨other, inHidden, start, stop⟩ := hidden
  have separate := List.all_eq_true.mp (List.all_eq_true.mp apart other inHidden) range member
  rw [Bool.or_eq_true, Nat.blt_eq, Nat.blt_eq] at separate
  omega

/-- Line ends, tabs and all other blanks are hidden, except for the space. -/
theorem isHidden_of_isBlank (blank : isBlank character = true) (other : character ≠ ' ') :
    IsHidden character := by
  have covered : ∀ range ∈ blankRanges, range = (0x1C, 0x20) ∨
      ∃ hidden ∈ controlRanges ++ formatRanges ++ separatorRanges,
        hidden.1 ≤ range.1 ∧ range.2 ≤ hidden.2 := by decide
  obtain ⟨range, member, inside⟩ := List.any_eq_true.mp blank
  rw [Bool.and_eq_true, decide_eq_true_iff, decide_eq_true_iff] at inside
  rcases covered range member with rfl | ⟨hidden, inHidden, start, stop⟩
  · have code : character.toNat ≠ ' '.toNat := mt Char.toNat_inj.mp other
    have space : ' '.toNat = 0x20 := rfl
    refine ⟨(0x00, 0x1F), by decide, Nat.zero_le _, ?_⟩
    change character.toNat ≤ 0x1F
    omega
  · exact ⟨hidden, inHidden, Nat.le_trans start inside.1, Nat.le_trans inside.2 stop⟩

end Characters

section Texts

variable {text front back : String}

@[simp] theorem isPrintableText_append :
    IsPrintableText (front ++ back) ↔ IsPrintableText front ∧ IsPrintableText back := by
  rw [IsPrintableText, String.toList_append, List.forall_mem_append]
  rfl

@[simp] theorem isPrintableText_ofList {letters : List Char} :
    IsPrintableText (String.ofList letters) ↔
      ∀ letter ∈ letters, isPrintable letter = true := by
  rw [IsPrintableText, String.toList_ofList]

end Texts

section Quotes

variable {quote character : Char}

theorem isPrintable_hexadecimal (width number : Nat) :
    ∀ letter ∈ hexadecimal width number, isPrintable letter = true := by
  have digits : ∀ digit < 16, isPrintable (hexDigit digit) = true := by decide
  induction width generalizing number with
  | zero => exact nofun
  | succ width induction =>
      rw [hexadecimal, List.forall_mem_append, List.forall_mem_singleton]
      exact ⟨induction (number / 16), digits _ (Nat.mod_lt _ (by decide))⟩

theorem isPrintable_codeEscape (character : Char) :
    ∀ letter ∈ codeEscape character, isPrintable letter = true := by
  have marked : ∀ (mark : Char) (width : Nat), isPrintable mark = true →
      ∀ letter ∈ '\\' :: mark :: hexadecimal width character.toNat,
        isPrintable letter = true := by
    intro mark width printable
    rw [List.forall_mem_cons, List.forall_mem_cons]
    exact ⟨by decide, printable, isPrintable_hexadecimal width _⟩
  simp only [codeEscape]
  split
  · exact marked 'x' 2 (by decide)
  split
  · exact marked 'u' 4 (by decide)
  · exact marked 'U' 8 (by decide)

theorem isPrintable_quotedCharacter (printable : isPrintable quote = true) :
    ∀ letter ∈ quotedCharacter quote character, isPrintable letter = true := by
  unfold quotedCharacter
  split
  · rename_i escaped
    rw [Bool.or_eq_true, decide_eq_true_iff, decide_eq_true_iff] at escaped
    rw [List.forall_mem_cons, List.forall_mem_singleton]
    refine ⟨by decide, ?_⟩
    rcases escaped with rfl | rfl
    · decide
    · exact printable
  split
  · exact List.all_eq_true.mp (by decide)
  split
  · exact List.all_eq_true.mp (by decide)
  split
  · exact List.all_eq_true.mp (by decide)
  split
  · rename_i itself
    exact List.forall_mem_singleton.mpr itself
  · exact isPrintable_codeEscape character

theorem isPrintable_quoteFor (text : List Char) : isPrintable (quoteFor text) = true := by
  unfold quoteFor
  split <;> decide

theorem isPrintableText_quoted (text : String) : IsPrintableText (quoted text) := by
  have printable := isPrintable_quoteFor text.toList
  rw [quoted, isPrintableText_ofList, quotedCharacters, List.forall_mem_append,
    List.forall_mem_cons, List.forall_mem_singleton]
  refine ⟨⟨printable, ?_⟩, printable⟩
  intro letter member
  obtain ⟨character, -, inside⟩ := List.mem_flatMap.mp member
  exact isPrintable_quotedCharacter printable letter inside

end Quotes

end ClassTaint.Text
