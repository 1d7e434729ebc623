namespace ClassTaint.Text

/-! Blank characters and trimming. A text is trimmed at both ends, and what is
blank inside it stays. -/

/-- Control, space and separator characters that count as blank: the code
points nine to thirteen and 28 to 31, the space, the next-line control, the
no-break space, the Ogham space, the typographic spaces, the line and paragraph
separators, the two narrow spaces and the ideographic space. -/
def blankRanges : List (Nat × Nat) :=
  [(0x09, 0x0D), (0x1C, 0x20), (0x85, 0x85), (0xA0, 0xA0), (0x1680, 0x1680),
    (0x2000, 0x200A), (0x2028, 0x2029), (0x202F, 0x202F), (0x205F, 0x205F),
    (0x3000, 0x3000)]

def isBlank (character : Char) : Bool :=
  blankRanges.any fun range =>
    range.1 ≤ character.toNat && character.toNat ≤ range.2

def trimLeft (text : List Char) : List Char :=
  text.dropWhile isBlank

def trimRight (text : List Char) : List Char :=
  (trimLeft text.reverse).reverse

/-- The text without the blanks at its two ends. -/
def trim (text : List Char) : List Char :=
  trimRight (trimLeft text)

def IsBlankText (text : List Char) : Prop :=
  ∀ character ∈ text, isBlank character = true

theorem trimLeft_append_of_blank {blanks : List Char}
    (blank : IsBlankText blanks) (text : List Char) :
    trimLeft (blanks ++ text) = trimLeft text :=
  List.dropWhile_append_of_pos blank

theorem trimRight_append_of_blank {blanks : List Char}
    (blank : IsBlankText blanks) (text : List Char) :
    trimRight (text ++ blanks) = trimRight text := by
  unfold trimRight
  rw [List.reverse_append, trimLeft_append_of_blank]
  intro character member
  exact blank character (List.mem_reverse.mp member)

@[simp] theorem trimLeft_eq_nil_iff {text : List Char} :
    trimLeft text = [] ↔ IsBlankText text := by
  induction text with
  | nil => simp [trimLeft, IsBlankText]
  | cons first rest induction =>
      by_cases blank : isBlank first = true
      · have kept : trimLeft (first :: rest) = trimLeft rest := by
          simp [trimLeft, blank]
        rw [kept, induction]
        simp [IsBlankText, blank]
      · simp [trimLeft, IsBlankText, blank]

theorem trim_append_left {blanks : List Char} (blank : IsBlankText blanks)
    (text : List Char) : trim (blanks ++ text) = trim text := by
  rw [trim, trimLeft_append_of_blank blank, trim]

theorem trim_append_right {blanks : List Char} (blank : IsBlankText blanks)
    (text : List Char) : trim (text ++ blanks) = trim text := by
  by_cases empty : trimLeft text = []
  · have all : IsBlankText (text ++ blanks) := by
      intro character member
      rcases List.mem_append.mp member with inText | inBlanks
      · exact trimLeft_eq_nil_iff.mp empty character inText
      · exact blank character inBlanks
    rw [trim, trim, trimLeft_eq_nil_iff.mpr all, empty]
  · have kept : trimLeft (text ++ blanks) = trimLeft text ++ blanks := by
      unfold trimLeft at empty ⊢
      rw [List.dropWhile_append]
      simp [empty]
    rw [trim, kept, trimRight_append_of_blank blank, trim]

/-- Trimming takes blanks off the two ends and nothing else. -/
theorem exists_blank_append_trim (text : List Char) :
    ∃ front back, IsBlankText front ∧ IsBlankText back ∧
      text = front ++ trim text ++ back := by
  refine ⟨text.takeWhile isBlank,
    ((trimLeft text).reverse.takeWhile isBlank).reverse, ?_, ?_, ?_⟩
  · intro character member
    exact List.all_eq_true.mp List.all_takeWhile character member
  · intro character member
    exact List.all_eq_true.mp List.all_takeWhile character
      (List.mem_reverse.mp member)
  · have back : trim text ++
        ((trimLeft text).reverse.takeWhile isBlank).reverse = trimLeft text := by
      rw [trim, trimRight, ← List.reverse_append]
      unfold trimLeft
      rw [List.takeWhile_append_dropWhile, List.reverse_reverse]
    rw [List.append_assoc, back, trimLeft, List.takeWhile_append_dropWhile]

end ClassTaint.Text
