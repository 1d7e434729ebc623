import ClassTaint.Proofs.Descriptor.Grammar
import ClassTaint.Proofs.Text.Trim

namespace ClassTaint

/-! How far a descriptor reaches. Its letters are of one small alphabet, nothing
can be put behind it, and before it only more brackets, or the beginning of the
name of its class. -/

/-- The letters of class paths: those of names, and the slash. -/
def IsPathLetter (letter : Char) : Prop :=
  IsCapital letter ∨ IsSmall letter ∨ IsNumeral letter ∨ letter = '$' ∨
    letter = '/'

def IsDescriptorLetter (letter : Char) : Prop :=
  IsPathLetter letter ∨ letter = ';' ∨ letter = '['

instance (letter : Char) : Decidable (IsPathLetter letter) :=
  inferInstanceAs (Decidable (_ ∨ _))

instance (letter : Char) : Decidable (IsDescriptorLetter letter) :=
  inferInstanceAs (Decidable (_ ∨ _))

section Letters

variable {letter : Char}

theorem IsCapital.toNat (capital : IsCapital letter) :
    65 ≤ letter.toNat ∧ letter.toNat ≤ 90 := Text.toNat_range capital

theorem IsSmall.toNat (small : IsSmall letter) :
    97 ≤ letter.toNat ∧ letter.toNat ≤ 122 := Text.toNat_range small

theorem IsNumeral.toNat (numeral : IsNumeral letter) :
    48 ≤ letter.toNat ∧ letter.toNat ≤ 57 := Text.toNat_range numeral

theorem IsDescriptorLetter.toNat (allowed : IsDescriptorLetter letter) :
    0x20 < letter.toNat ∧ letter.toNat < 0x7F := by
  rcases allowed with (capital | small | numeral | rfl | rfl) | rfl | rfl
  · have range := capital.toNat
    omega
  · have range := small.toNat
    omega
  · have range := numeral.toNat
    omega
  all_goals decide

theorem IsDescriptorLetter.not_isBlank (allowed : IsDescriptorLetter letter) :
    Text.isBlank letter = false :=
  Text.not_isBlank_of_range allowed.toNat.1 allowed.toNat.2

theorem isCapital_of_mem_primitiveLetters (member : letter ∈ primitiveLetters) :
    IsCapital letter := by
  obtain ⟨type, rfl⟩ := mem_primitiveLetters_iff.mp member
  cases type <;> exact ⟨by decide, by decide⟩

theorem not_isCapital_of_package (inner : IsSmall letter ∨ IsNumeral letter) :
    ¬ IsCapital letter := by
  intro capital
  have upper := capital.toNat
  rcases inner with small | numeral
  · have range := small.toNat
    omega
  · have range := numeral.toNat
    omega

end Letters

section Words

variable {word : List Char}

theorem IsPackageWord.letters (package : IsPackageWord word) :
    ∀ letter ∈ word, IsSmall letter ∨ IsNumeral letter := by
  cases word with
  | nil => exact package.elim
  | cons first rest => exact List.forall_mem_cons.mpr ⟨.inl package.1, package.2⟩

theorem IsClassWord.letters (name : IsClassWord word) :
    ∀ letter ∈ word,
      IsCapital letter ∨ IsSmall letter ∨ IsNumeral letter ∨ letter = '$' := by
  cases word with
  | nil => exact name.elim
  | cons first rest => exact List.forall_mem_cons.mpr ⟨.inl name.1, name.2⟩

theorem IsClassWord.slash_not_mem (name : IsClassWord word) : '/' ∉ word := by
  obtain ⟨named, same⟩ : ∃ named : ClassName, named.letters = word :=
    ⟨⟨word, isClassName_iff.mpr name⟩, rfl⟩
  exact same ▸ named.slash_not_mem

end Words

section Paths

variable {packages : List (List Char)} {name : List Char}

theorem classText_letters (words : ∀ package ∈ packages, IsPackageWord package)
    (named : IsClassWord name) :
    ∀ letter ∈ classText packages name, IsPathLetter letter := by
  intro letter member
  rcases List.mem_append.mp member with inPackages | inName
  · obtain ⟨package, listed, inPackage⟩ := List.mem_flatMap.mp inPackages
    rcases List.mem_append.mp inPackage with inWord | slash
    · rcases (words package listed).letters letter inWord with small | numeral
      · exact .inr (.inl small)
      · exact .inr (.inr (.inl numeral))
    · exact .inr (.inr (.inr (.inr (List.mem_singleton.mp slash))))
  · rcases named.letters letter inName with capital | small | numeral | dollar
    · exact .inl capital
    · exact .inr (.inl small)
    · exact .inr (.inr (.inl numeral))
    · exact .inr (.inr (.inr (.inl dollar)))

theorem IsClassPath.letters {path : List Char} (classPath : IsClassPath path) :
    ∀ letter ∈ path, IsPathLetter letter := by
  obtain ⟨packages, name, words, named, rfl⟩ := classPath
  exact classText_letters words named

theorem classText_cons (package : List Char) :
    classText (package :: packages) name =
      package ++ '/' :: classText packages name := by
  simp [classText]

/-- Capitals stand in the name of the class only, behind the last slash. -/
theorem slash_not_mem_behind_capital
    (words : ∀ package ∈ packages, IsPackageWord package)
    (named : IsClassWord name) {front back : List Char} {capital : Char}
    (upper : IsCapital capital)
    (whole : classText packages name = front ++ capital :: back) : '/' ∉ back := by
  -- Package after package, the capital is not in the word and is not its slash.
  induction packages generalizing front with
  | nil =>
      intro member
      apply named.slash_not_mem
      rw [show name = front ++ capital :: back from whole]
      simp [member]
  | cons package packages induction =>
      obtain ⟨first, others⟩ := List.forall_mem_cons.mp words
      rw [classText_cons] at whole
      rcases List.append_eq_append_iff.mp whole with
        ⟨inner, -, rest⟩ | ⟨inner, split, rest⟩
      · rcases List.cons_eq_append_iff.mp rest with ⟨-, same⟩ | ⟨more, -, same⟩
        · cases same
          exact absurd upper (by decide)
        · exact induction others same
      · rcases List.cons_eq_append_iff.mp rest with ⟨-, same⟩ | ⟨more, same, -⟩
        · cases same
          exact absurd upper (by decide)
        · have member : capital ∈ package := by
            rw [split, same]
            simp
          exact absurd upper (not_isCapital_of_package (first.letters _ member))

end Paths

namespace ElementParts

variable {element other : ElementParts} {back : List Char}

theorem text_letters (wellFormed : element.IsWellFormed) :
    ∀ letter ∈ element.text, IsPathLetter letter ∨ letter = ';' := by
  intro letter member
  cases element with
  | primitive type =>
      rw [List.mem_singleton.mp member]
      exact .inl (.inl (isCapital_of_mem_primitiveLetters wellFormed))
  | object packages name =>
      rcases List.mem_cons.mp member with rfl | inner
      · exact .inl (.inl ⟨by decide, by decide⟩)
      · rcases List.mem_append.mp inner with inPath | last
        · exact .inl (classText_letters wellFormed.1 wellFormed.2 letter inPath)
        · exact .inr (List.mem_singleton.mp last)

theorem text_ne_nil (element : ElementParts) : element.text ≠ [] := by
  cases element <;> exact List.cons_ne_nil _ _

theorem bracket_not_mem_text (wellFormed : element.IsWellFormed) :
    '[' ∉ element.text := by
  intro member
  exact absurd (text_letters wellFormed '[' member) (by decide)

theorem semicolon_not_mem_classText {packages : List (List Char)}
    {name : List Char} (wellFormed : (object packages name).IsWellFormed) :
    ';' ∉ classText packages name := by
  intro member
  exact absurd (classText_letters wellFormed.1 wellFormed.2 ';' member) (by decide)

theorem eq_nil_of_text_append (wellFormed : element.IsWellFormed)
    (others : other.IsWellFormed) (same : element.text ++ back = other.text) :
    back = [] := by
  cases element with
  | primitive letter =>
      cases other with
      | primitive _ => exact (List.cons.inj same).2
      | object _ _ =>
          cases (List.cons.inj same).1
          exact absurd wellFormed (by decide : 'L' ∉ primitiveLetters)
  | object packages name =>
      cases other with
      | primitive _ => simp [text] at same
      | object more named =>
          have bodies : classText more named ++ ';' :: [] =
              classText packages name ++ ';' :: back := by
            simpa [text] using (List.cons.inj same).2.symm
          exact ((List.append_cons_inj_of_notMem
            (semicolon_not_mem_classText others) List.not_mem_nil).mp
              bodies).2.2.symm

/-- Of all element types only a class outside of packages can end another one. -/
theorem outside_of_append {first : Char} {front : List Char}
    (wellFormed : element.IsWellFormed) (others : other.IsWellFormed)
    (same : first :: (front ++ element.text) = other.text) :
    ∃ name, element = .object [] name := by
  cases other with
  | primitive _ =>
      have none := (List.append_eq_nil_iff.mp (List.cons.inj same).2).2
      exact absurd none element.text_ne_nil
  | object more named =>
      have bodies : front ++ element.text = classText more named ++ [';'] :=
        (List.cons.inj same).2
      cases element with
      | primitive letter =>
          obtain ⟨-, last⟩ := List.append_inj' bodies rfl
          cases last
          exact absurd wellFormed (by decide : ';' ∉ primitiveLetters)
      | object packages name =>
          have closed : classText more named ++ [';'] =
              (front ++ 'L' :: classText packages name) ++ [';'] := by
            rw [← bodies, text, List.append_assoc]
          have names := List.append_cancel_right closed
          have plain := slash_not_mem_behind_capital others.1 others.2
            ⟨by decide, by decide⟩ names
          cases packages with
          | nil => exact ⟨name, rfl⟩
          | cons package packages =>
              rw [classText_cons] at plain
              simp at plain

end ElementParts

namespace DescriptorParts

variable {text : List Char} {levels : Nat} {element : ElementParts}

theorem letters (parts : DescriptorParts text levels element) :
    ∀ letter ∈ text, IsDescriptorLetter letter := by
  intro letter member
  rw [parts.whole] at member
  rcases List.mem_append.mp member with inBrackets | inElement
  · exact .inr (.inr (List.mem_replicate.mp inBrackets).2)
  · rcases ElementParts.text_letters parts.wellFormed letter inElement with inPath | last
    · exact .inl inPath
    · exact .inr (.inl last)

theorem text_ne_nil (parts : DescriptorParts text levels element) : text ≠ [] := by
  rw [parts.whole]
  exact List.append_ne_nil_of_right_ne_nil _ element.text_ne_nil

theorem ofBracket (parts : DescriptorParts ('[' :: text) levels element) :
    ∃ inner, DescriptorParts text inner element := by
  have whole := parts.whole
  cases levels with
  | zero =>
      have member : '[' ∈ element.text := by
        rw [← List.nil_append element.text, ← List.replicate_zero, ← whole]
        exact List.mem_cons_self
      exact absurd member (ElementParts.bracket_not_mem_text parts.wellFormed)
  | succ inner =>
      rw [List.replicate_succ, List.cons_append] at whole
      exact ⟨inner, parts.wellFormed, (List.cons.inj whole).2⟩

theorem text_eq_of_not_mem (parts : DescriptorParts text levels element)
    (plain : '[' ∉ text) : text = element.text := by
  have whole := parts.whole
  cases levels with
  | zero => exact whole
  | succ inner =>
      apply absurd _ plain
      rw [whole]
      exact List.mem_append_left _ List.mem_cons_self

theorem text_eq_of_head {first : Char} (different : first ≠ '[')
    (parts : DescriptorParts (first :: text) levels element) :
    first :: text = element.text := by
  have whole := parts.whole
  cases levels with
  | zero => exact whole
  | succ inner =>
      rw [List.replicate_succ, List.cons_append] at whole
      exact absurd (List.cons.inj whole).1 different

theorem isCapital_of_head {first : Char} (different : first ≠ '[')
    (parts : DescriptorParts (first :: text) levels element) : IsCapital first := by
  have whole := parts.text_eq_of_head different
  have wellFormed := parts.wellFormed
  cases element with
  | primitive letter =>
      cases whole
      exact isCapital_of_mem_primitiveLetters wellFormed
  | object packages name =>
      obtain ⟨rfl, -⟩ := List.cons.inj whole
      decide

theorem eq_nil_of_append {back : List Char} {others : Nat} {other : ElementParts}
    (parts : DescriptorParts text levels element)
    (longer : DescriptorParts (text ++ back) others other) : back = [] := by
  -- Both texts have the same levels, which are taken off one by one.
  induction levels generalizing text others with
  | zero =>
      have whole : text = element.text := parts.whole
      cases text with
      | nil => exact absurd rfl parts.text_ne_nil
      | cons first rest =>
          have different : first ≠ '[' := by
            rintro rfl
            apply ElementParts.bracket_not_mem_text parts.wellFormed
            rw [← whole]
            exact List.mem_cons_self
          have same : (first :: rest) ++ back = other.text :=
            longer.text_eq_of_head different
          rw [whole] at same
          exact ElementParts.eq_nil_of_text_append parts.wellFormed
            longer.wellFormed same
  | succ inner induction =>
      have whole := parts.whole
      rw [List.replicate_succ, List.cons_append] at whole
      rw [whole, List.cons_append] at longer
      obtain ⟨_, rest⟩ := longer.ofBracket
      exact induction ⟨parts.wellFormed, rfl⟩ rest

/-- Before a descriptor there is room for brackets. If it is that of a class
outside of packages, it may also be the end of that of a class with a longer
name. -/
theorem front_of_append {front : List Char} {others : Nat} {other : ElementParts}
    (parts : DescriptorParts text levels element)
    (longer : DescriptorParts (front ++ text) others other) :
    (∀ letter ∈ front, letter = '[') ∨
      ∃ name, IsClassWord name ∧ text = 'L' :: name ++ [';'] := by
  induction front generalizing others with
  | nil => exact .inl nofun
  | cons first front induction =>
      by_cases bracket : first = '['
      · subst bracket
        obtain ⟨_, rest⟩ := longer.ofBracket
        rcases induction rest with brackets | outside
        · exact .inl (List.forall_mem_cons.mpr ⟨rfl, brackets⟩)
        · exact .inr outside
      · right
        have same : first :: (front ++ text) = other.text :=
          longer.text_eq_of_head bracket
        have plain : '[' ∉ text := by
          intro member
          apply ElementParts.bracket_not_mem_text longer.wellFormed
          rw [← same]
          exact List.mem_append_right (first :: front) member
        have whole := parts.text_eq_of_not_mem plain
        rw [whole] at same
        obtain ⟨name, rfl⟩ :=
          ElementParts.outside_of_append parts.wellFormed longer.wellFormed same
        exact ⟨name, parts.wellFormed.2, whole⟩

end DescriptorParts

end ClassTaint
