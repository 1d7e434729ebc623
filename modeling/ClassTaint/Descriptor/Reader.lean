import ClassTaint.Descriptor

namespace ClassTaint

/-! Reading descriptors back from their written form. -/

/-- The pieces of a text between its slashes: one more than there are slashes. -/
def slashPieces : List Char → List (List Char)
  | [] => [[]]
  | letter :: rest =>
      if letter = '/' then
        [] :: slashPieces rest
      else
        match slashPieces rest with
        | [] => [[letter]]
        | piece :: pieces => (letter :: piece) :: pieces

@[simp] theorem slashPieces_ne_nil (text : List Char) :
    slashPieces text ≠ [] := by
  cases text with
  | nil => simp [slashPieces]
  | cons letter rest =>
      unfold slashPieces
      split
      · simp
      · split <;> simp

theorem slashPieces_of_not_mem {word : List Char} (plain : '/' ∉ word) :
    slashPieces word = [word] := by
  induction word with
  | nil => rfl
  | cons letter rest induction =>
      have different : letter ≠ '/' := fun same => plain (by simp [same])
      have inner := induction fun member => plain (List.mem_cons_of_mem _ member)
      simp [slashPieces, different, inner]

theorem slashPieces_append {word : List Char} (plain : '/' ∉ word)
    (rest : List Char) :
    slashPieces (word ++ '/' :: rest) = word :: slashPieces rest := by
  induction word with
  | nil => simp [slashPieces]
  | cons letter tail induction =>
      have different : letter ≠ '/' := fun same => plain (by simp [same])
      have inner := induction fun member => plain (List.mem_cons_of_mem _ member)
      simp [slashPieces, different, inner]

/-- Pieces with slashes between them. -/
def joinPieces : List (List Char) → List Char
  | [] => []
  | [last] => last
  | piece :: pieces => piece ++ '/' :: joinPieces pieces

theorem joinPieces_cons {pieces : List (List Char)} (some : pieces ≠ [])
    (piece : List Char) :
    joinPieces (piece :: pieces) = piece ++ '/' :: joinPieces pieces := by
  cases pieces with
  | nil => exact absurd rfl some
  | cons next rest => rfl

theorem joinPieces_slashPieces (text : List Char) :
    joinPieces (slashPieces text) = text := by
  induction text with
  | nil => rfl
  | cons letter rest induction =>
      by_cases slash : letter = '/'
      · simp [slashPieces, slash, joinPieces_cons, induction]
      · cases pieces : slashPieces rest with
        | nil => exact absurd pieces (slashPieces_ne_nil rest)
        | cons piece tail =>
            rw [pieces] at induction
            simp only [slashPieces, slash, if_false, pieces]
            rw [← induction]
            cases tail <;> rfl

namespace ClassPath

def ofPieces? : List (List Char) → Option ClassPath
  | [] => none
  | [last] => do
      let name ← ClassName.ofLetters? last
      pure ⟨[], name⟩
  | piece :: pieces => do
      let package ← PackageName.ofLetters? piece
      let path ← ofPieces? pieces
      pure ⟨package :: path.packages, path.name⟩

def parse? (text : List Char) : Option ClassPath :=
  ofPieces? (slashPieces text)

theorem parse?_print (path : ClassPath) : parse? path.print = some path := by
  obtain ⟨packages, name⟩ := path
  unfold parse?
  induction packages with
  | nil =>
      simp [print, slashPieces_of_not_mem name.slash_not_mem, ofPieces?]
  | cons package packages induction =>
      have shape : print ⟨package :: packages, name⟩ =
          package.letters ++ '/' :: print ⟨packages, name⟩ := by
        simp [print]
      rw [shape, slashPieces_append package.slash_not_mem]
      cases pieces : slashPieces (print ⟨packages, name⟩) with
      | nil => exact absurd pieces (slashPieces_ne_nil _)
      | cons piece rest =>
          rw [pieces] at induction
          simp [ofPieces?, induction]

theorem joinPieces_of_ofPieces? {pieces : List (List Char)} {path : ClassPath}
    (read : ofPieces? pieces = some path) : path.print = joinPieces pieces := by
  induction pieces generalizing path with
  | nil => cases read
  | cons piece rest induction =>
      cases rest with
      | nil =>
          simp only [ofPieces?, Option.pure_def, Option.bind_eq_bind,
            Option.bind_eq_some_iff, Option.some.injEq] at read
          obtain ⟨name, found, same⟩ := read
          subst same
          simp [print, joinPieces, ClassName.letters_of_ofLetters? found]
      | cons next tail =>
          simp only [ofPieces?, Option.pure_def, Option.bind_eq_bind,
            Option.bind_eq_some_iff, Option.some.injEq] at read
          obtain ⟨package, found, inner, innerRead, same⟩ := read
          subst same
          rw [joinPieces_cons (List.cons_ne_nil _ _), ← induction innerRead,
            ← PackageName.letters_of_ofLetters? found]
          simp [print]

theorem print_of_parse? {text : List Char} {path : ClassPath}
    (read : parse? text = some path) : path.print = text :=
  (joinPieces_of_ofPieces? read).trans (joinPieces_slashPieces text)

end ClassPath

def ElementType.parse? : List Char → Option ElementType
  | [] => none
  | 'L' :: body =>
      if body.getLast? = some ';' then
        (ClassPath.parse? body.dropLast).map .object
      else
        none
  | [letter] => (Primitive.ofLetter? letter).map .primitive
  | _ => none

namespace ElementType

theorem parse?_print (element : ElementType) :
    parse? element.print = some element := by
  cases element with
  | primitive type => cases type <;> rfl
  | object path =>
      simp [print, parse?, ClassPath.parse?_print]

theorem print_of_parse? {text : List Char} {element : ElementType}
    (read : parse? text = some element) : element.print = text := by
  unfold parse? at read
  split at read
  · cases read
  · rename_i body
    split at read
    · rename_i closed
      obtain ⟨path, found, same⟩ := Option.map_eq_some_iff.mp read
      subst same
      obtain ⟨front, rfl⟩ := List.getLast?_eq_some_iff.mp closed
      simp [print, ClassPath.print_of_parse? found]
    · cases read
  · obtain ⟨type, found, same⟩ := Option.map_eq_some_iff.mp read
    subst same
    simp [print, Primitive.letter_of_ofLetter? found]
  · cases read

/-- An element type starts with a letter. -/
theorem dropWhile_print (element : ElementType) :
    element.print.dropWhile (· == '[') = element.print := by
  cases element with
  | primitive type => cases type <;> rfl
  | object path => rfl

end ElementType

/-- Every opening bracket at the front is an array level. -/
def Descriptor.parse? (text : List Char) : Option Descriptor := do
  let element ← ElementType.parse? (text.dropWhile (· == '['))
  pure ⟨(text.takeWhile (· == '[')).length, element⟩

namespace Descriptor

theorem parse?_print (descriptor : Descriptor) :
    parse? descriptor.print = some descriptor := by
  obtain ⟨levels, element⟩ := descriptor
  have brackets : ∀ letter ∈ List.replicate levels '[',
      (letter == '[') = true := by
    intro letter member
    simp [(List.mem_replicate.mp member).2]
  have stops := element.dropWhile_print
  have none : element.print.takeWhile (· == '[') = [] := by
    have split := List.takeWhile_append_dropWhile
      (p := (· == '[')) (l := element.print)
    rw [stops] at split
    simpa using split
  simp only [parse?, print, List.dropWhile_append_of_pos brackets,
    List.takeWhile_append_of_pos brackets, stops, none]
  simp [ElementType.parse?_print]

theorem print_of_parse? {text : List Char} {descriptor : Descriptor}
    (read : parse? text = some descriptor) : descriptor.print = text := by
  simp only [parse?, Option.pure_def, Option.bind_eq_bind,
    Option.bind_eq_some_iff, Option.some.injEq] at read
  obtain ⟨element, found, same⟩ := read
  subst same
  have brackets : List.replicate (text.takeWhile (· == '[')).length '[' =
      text.takeWhile (· == '[') := by
    symm
    rw [List.eq_replicate_iff]
    refine ⟨rfl, ?_⟩
    intro letter member
    have bracket := List.all_eq_true.mp
      (List.all_takeWhile (p := (· == '[')) (l := text)) letter member
    simpa using bracket
  simp only [print, brackets, ElementType.print_of_parse? found]
  exact List.takeWhile_append_dropWhile

theorem parse?_eq_some_iff {text : List Char} {descriptor : Descriptor} :
    parse? text = some descriptor ↔ text = descriptor.print :=
  ⟨fun read => (print_of_parse? read).symm,
    fun same => same ▸ parse?_print descriptor⟩

end Descriptor

def isDescriptor (text : List Char) : Bool :=
  (Descriptor.parse? text).isSome

theorem isDescriptor_iff {text : List Char} :
    isDescriptor text = true ↔
      ∃ descriptor : Descriptor, text = descriptor.print := by
  simp [isDescriptor, Option.isSome_iff_exists, Descriptor.parse?_eq_some_iff]

end ClassTaint
