import ClassTaint.Descriptor.Reader
import Mathlib.Data.List.Basic

namespace ClassTaint

/-! The grammar of descriptors, letter by letter. A text is read as a descriptor
just when it has parts, and no text has parts in two ways. -/

def IsSmall (letter : Char) : Prop :=
  'a' ≤ letter ∧ letter ≤ 'z'

def IsCapital (letter : Char) : Prop :=
  'A' ≤ letter ∧ letter ≤ 'Z'

def IsNumeral (letter : Char) : Prop :=
  '0' ≤ letter ∧ letter ≤ '9'

instance (letter : Char) : Decidable (IsSmall letter) :=
  inferInstanceAs (Decidable (_ ∧ _))

instance (letter : Char) : Decidable (IsCapital letter) :=
  inferInstanceAs (Decidable (_ ∧ _))

instance (letter : Char) : Decidable (IsNumeral letter) :=
  inferInstanceAs (Decidable (_ ∧ _))

def IsPackageWord : List Char → Prop
  | [] => False
  | first :: rest =>
      IsSmall first ∧ ∀ letter ∈ rest, IsSmall letter ∨ IsNumeral letter

def IsClassWord : List Char → Prop
  | [] => False
  | first :: rest =>
      IsCapital first ∧ ∀ letter ∈ rest,
        IsCapital letter ∨ IsSmall letter ∨ IsNumeral letter ∨ letter = '$'

def primitiveLetters : List Char :=
  ['B', 'C', 'D', 'F', 'I', 'J', 'S', 'Z']

/-- The packages of a class, each closed by a slash, and then its name. -/
def classText (packages : List (List Char)) (name : List Char) : List Char :=
  packages.flatMap (· ++ ['/']) ++ name

def IsClassPath (path : List Char) : Prop :=
  ∃ packages name, (∀ package ∈ packages, IsPackageWord package) ∧
    IsClassWord name ∧ path = classText packages name

/-- What stands behind the brackets of a descriptor, taken apart. -/
inductive ElementParts
  | primitive (letter : Char)
  | object (packages : List (List Char)) (name : List Char)

namespace ElementParts

def IsWellFormed : ElementParts → Prop
  | primitive letter => letter ∈ primitiveLetters
  | object packages name =>
      (∀ package ∈ packages, IsPackageWord package) ∧ IsClassWord name

def text : ElementParts → List Char
  | primitive letter => [letter]
  | object packages name => 'L' :: classText packages name ++ [';']

end ElementParts

/-- A text is some opening brackets and the text of an element type. -/
structure DescriptorParts (text : List Char) (levels : Nat)
    (element : ElementParts) : Prop where
  wellFormed : element.IsWellFormed
  whole : text = List.replicate levels '[' ++ element.text

section Letters

variable {letter : Char}

theorem isLower_iff : letter.isLower = true ↔ IsSmall letter :=
  Bool.and_eq_true_iff.trans (and_congr decide_eq_true_iff decide_eq_true_iff)

theorem isUpper_iff : letter.isUpper = true ↔ IsCapital letter :=
  decide_eq_true_iff

theorem isDigit_iff : letter.isDigit = true ↔ IsNumeral letter :=
  Bool.and_eq_true_iff.trans (and_congr decide_eq_true_iff decide_eq_true_iff)

theorem isAlphanum_iff :
    letter.isAlphanum = true ↔
      IsCapital letter ∨ IsSmall letter ∨ IsNumeral letter := by
  rw [← isUpper_iff, ← isLower_iff, ← isDigit_iff, ← or_assoc]
  exact Bool.or_eq_true_iff.trans (or_congr Bool.or_eq_true_iff Iff.rfl)

theorem mem_primitiveLetters_iff :
    letter ∈ primitiveLetters ↔ ∃ type : Primitive, type.letter = letter := by
  constructor
  · intro member
    simp only [primitiveLetters, List.mem_cons, List.not_mem_nil, or_false] at member
    rcases member with rfl | rfl | rfl | rfl | rfl | rfl | rfl | rfl
    · exact ⟨.byte, rfl⟩
    · exact ⟨.char, rfl⟩
    · exact ⟨.double, rfl⟩
    · exact ⟨.float, rfl⟩
    · exact ⟨.int, rfl⟩
    · exact ⟨.long, rfl⟩
    · exact ⟨.short, rfl⟩
    · exact ⟨.truth, rfl⟩
  · rintro ⟨type, rfl⟩
    cases type <;> decide

end Letters

section Words

variable {word : List Char}

theorem isPackageName_iff : isPackageName word = true ↔ IsPackageWord word := by
  cases word with
  | nil => simp [isPackageName, IsPackageWord]
  | cons first rest =>
      simp only [isPackageName, IsPackageWord, Bool.and_eq_true,
        List.all_eq_true, Bool.or_eq_true, isLower_iff, isDigit_iff]

theorem isClassName_iff : isClassName word = true ↔ IsClassWord word := by
  cases word with
  | nil => simp [isClassName, IsClassWord]
  | cons first rest =>
      simp only [isClassName, IsClassWord, Bool.and_eq_true, List.all_eq_true,
        Bool.or_eq_true, isUpper_iff, isAlphanum_iff, beq_iff_eq, or_assoc]

theorem exists_packageNames {packages : List (List Char)}
    (words : ∀ package ∈ packages, IsPackageWord package) :
    ∃ names : List PackageName, names.map (·.letters) = packages := by
  induction packages with
  | nil => exact ⟨[], rfl⟩
  | cons package packages induction =>
      obtain ⟨first, others⟩ := List.forall_mem_cons.mp words
      obtain ⟨names, same⟩ := induction others
      refine ⟨⟨package, isPackageName_iff.mpr first⟩ :: names, ?_⟩
      rw [List.map_cons, same]

end Words

namespace ClassPath

theorem print_eq (path : ClassPath) :
    path.print = classText (path.packages.map (·.letters)) path.name.letters := by
  rw [print, classText, List.flatMap_map]

end ClassPath

namespace ElementType

def parts : ElementType → ElementParts
  | primitive type => .primitive type.letter
  | object path => .object (path.packages.map (·.letters)) path.name.letters

theorem text_parts (element : ElementType) : element.parts.text = element.print := by
  cases element with
  | primitive type => rfl
  | object path =>
      rw [print, path.print_eq]
      rfl

theorem isWellFormed_parts (element : ElementType) :
    element.parts.IsWellFormed := by
  cases element with
  | primitive type => exact mem_primitiveLetters_iff.mpr ⟨type, rfl⟩
  | object path =>
      refine ⟨?_, isClassName_iff.mp path.name.wellFormed⟩
      intro package member
      obtain ⟨name, -, rfl⟩ := List.mem_map.mp member
      exact isPackageName_iff.mp name.wellFormed

theorem exists_parts {element : ElementParts} (wellFormed : element.IsWellFormed) :
    ∃ type : ElementType, type.parts = element := by
  cases element with
  | primitive letter =>
      obtain ⟨type, rfl⟩ := mem_primitiveLetters_iff.mp wellFormed
      exact ⟨.primitive type, rfl⟩
  | object packages name =>
      obtain ⟨names, rfl⟩ := exists_packageNames wellFormed.1
      exact ⟨.object ⟨names, ⟨name, isClassName_iff.mpr wellFormed.2⟩⟩, rfl⟩

end ElementType

namespace DescriptorParts

variable {text : List Char} {levels : Nat} {element : ElementParts}

theorem ofDescriptor (descriptor : Descriptor) :
    DescriptorParts descriptor.print descriptor.levels
      descriptor.element.parts where
  wellFormed := descriptor.element.isWellFormed_parts
  whole := by rw [descriptor.element.text_parts, Descriptor.print]

theorem exists_descriptor (parts : DescriptorParts text levels element) :
    ∃ descriptor : Descriptor, text = descriptor.print ∧
      descriptor.levels = levels ∧ descriptor.element.parts = element := by
  obtain ⟨type, rfl⟩ := ElementType.exists_parts parts.wellFormed
  refine ⟨⟨levels, type⟩, ?_, rfl, rfl⟩
  rw [parts.whole, type.text_parts, Descriptor.print]

/-- Reading a text gives back the only descriptor that is written so. -/
theorem unique {others : Nat} {other : ElementParts}
    (first : DescriptorParts text levels element)
    (second : DescriptorParts text others other) :
    others = levels ∧ other = element := by
  obtain ⟨one, rfl, rfl, rfl⟩ := first.exists_descriptor
  obtain ⟨two, same, rfl, rfl⟩ := second.exists_descriptor
  have read := Descriptor.parse?_print one
  rw [same, Descriptor.parse?_print] at read
  cases read
  exact ⟨rfl, rfl⟩

end DescriptorParts

theorem isDescriptor_iff_parts {text : List Char} :
    isDescriptor text = true ↔
      ∃ levels element, DescriptorParts text levels element := by
  rw [isDescriptor_iff]
  constructor
  · rintro ⟨descriptor, rfl⟩
    exact ⟨_, _, .ofDescriptor descriptor⟩
  · rintro ⟨levels, element, parts⟩
    obtain ⟨descriptor, same, -⟩ := parts.exists_descriptor
    exact ⟨descriptor, same⟩

end ClassTaint
