namespace ClassTaint

/-! Type descriptors. A descriptor is an element type under some number of array
levels, and it has one written form. -/

inductive Primitive
  | byte
  | char
  | double
  | float
  | int
  | long
  | short
  | truth
  deriving DecidableEq, Repr

namespace Primitive

def letter : Primitive → Char
  | byte => 'B'
  | char => 'C'
  | double => 'D'
  | float => 'F'
  | int => 'I'
  | long => 'J'
  | short => 'S'
  | truth => 'Z'

def ofLetter? : Char → Option Primitive
  | 'B' => some byte
  | 'C' => some char
  | 'D' => some double
  | 'F' => some float
  | 'I' => some int
  | 'J' => some long
  | 'S' => some short
  | 'Z' => some truth
  | _ => none

@[simp] theorem ofLetter?_letter (primitive : Primitive) :
    ofLetter? primitive.letter = some primitive := by
  cases primitive <;> rfl

theorem letter_of_ofLetter? {letter : Char} {primitive : Primitive}
    (read : ofLetter? letter = some primitive) : primitive.letter = letter := by
  unfold ofLetter? at read
  split at read <;> cases read <;> rfl

end Primitive

/-- Package names are lower-case words of the Latin alphabet, with digits after
the first letter. -/
def isPackageName : List Char → Bool
  | [] => false
  | first :: rest =>
      first.isLower && rest.all fun letter => letter.isLower || letter.isDigit

/-- Class names start with a capital of the Latin alphabet and go on with
letters, digits and dollar signs. -/
def isClassName : List Char → Bool
  | [] => false
  | first :: rest =>
      first.isUpper && rest.all fun letter => letter.isAlphanum || letter == '$'

structure PackageName where
  letters : List Char
  wellFormed : isPackageName letters = true
  deriving DecidableEq, Repr

structure ClassName where
  letters : List Char
  wellFormed : isClassName letters = true
  deriving DecidableEq, Repr

def PackageName.ofLetters? (letters : List Char) : Option PackageName :=
  if wellFormed : isPackageName letters = true then
    some ⟨letters, wellFormed⟩
  else
    none

def ClassName.ofLetters? (letters : List Char) : Option ClassName :=
  if wellFormed : isClassName letters = true then
    some ⟨letters, wellFormed⟩
  else
    none

namespace PackageName

@[simp] theorem ofLetters?_letters (name : PackageName) :
    ofLetters? name.letters = some name := by
  simp [ofLetters?, name.wellFormed]

theorem letters_of_ofLetters? {letters : List Char} {name : PackageName}
    (read : ofLetters? letters = some name) : name.letters = letters := by
  unfold ofLetters? at read
  split at read
  · cases read
    rfl
  · cases read

theorem slash_not_mem (name : PackageName) : '/' ∉ name.letters := by
  obtain ⟨letters, wellFormed⟩ := name
  intro member
  cases letters with
  | nil => cases member
  | cons first rest =>
      simp only [isPackageName, Bool.and_eq_true, List.all_eq_true] at wellFormed
      obtain ⟨lower, inner⟩ := wellFormed
      rcases List.mem_cons.mp member with same | inRest
      · rw [← same] at lower
        exact absurd lower (by decide)
      · exact absurd (inner '/' inRest) (by decide)

end PackageName

namespace ClassName

@[simp] theorem ofLetters?_letters (name : ClassName) :
    ofLetters? name.letters = some name := by
  simp [ofLetters?, name.wellFormed]

theorem letters_of_ofLetters? {letters : List Char} {name : ClassName}
    (read : ofLetters? letters = some name) : name.letters = letters := by
  unfold ofLetters? at read
  split at read
  · cases read
    rfl
  · cases read

theorem slash_not_mem (name : ClassName) : '/' ∉ name.letters := by
  obtain ⟨letters, wellFormed⟩ := name
  intro member
  cases letters with
  | nil => cases member
  | cons first rest =>
      simp only [isClassName, Bool.and_eq_true, List.all_eq_true] at wellFormed
      obtain ⟨upper, inner⟩ := wellFormed
      rcases List.mem_cons.mp member with same | inRest
      · rw [← same] at upper
        exact absurd upper (by decide)
      · exact absurd (inner '/' inRest) (by decide)

end ClassName

/-- A class by its packages, outermost first, and its own name. -/
structure ClassPath where
  packages : List PackageName
  name : ClassName
  deriving DecidableEq, Repr

inductive ElementType
  | primitive (type : Primitive)
  | object (path : ClassPath)
  deriving DecidableEq, Repr

structure Descriptor where
  levels : Nat
  element : ElementType
  deriving DecidableEq, Repr

/-- Each package is closed by a slash. -/
def ClassPath.print (path : ClassPath) : List Char :=
  path.packages.flatMap (fun package => package.letters ++ ['/']) ++
    path.name.letters

def ElementType.print : ElementType → List Char
  | .primitive type => [type.letter]
  | .object path => 'L' :: path.print ++ [';']

/-- One opening bracket for each array level, then the element type. -/
def Descriptor.print (descriptor : Descriptor) : List Char :=
  List.replicate descriptor.levels '[' ++ descriptor.element.print

end ClassTaint
