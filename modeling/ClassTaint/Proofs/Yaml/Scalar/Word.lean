import ClassTaint.Proofs.Descriptor.Extent
import ClassTaint.Yaml.Cursor
import ClassTaint.Yaml.Scalar.Plain

namespace ClassTaint.Yaml

/-! Words, which are written as they are. A plain scalar that starts with a word
ends with it when a value mark or the next line comes then. -/

/-- Visible characters of ASCII but for the colon. -/
def IsWordLetter (letter : Char) : Prop :=
  0x20 < letter.toNat ∧ letter.toNat < 0x7F ∧ letter ≠ ':'

structure IsWord (word : List Char) : Prop where
  letters : ∀ letter ∈ word, IsWordLetter letter
  start : ∃ first rest, word = first :: rest ∧ first.isAlpha = true

theorem ne_of_isAlpha {letter other : Char} (alpha : letter.isAlpha = true)
    (different : other.isAlpha = false) : letter ≠ other := by
  intro same
  subst same
  rw [alpha] at different
  cases different

theorem isWordLetter_of_isAlpha {letter : Char} (alpha : letter.isAlpha = true) :
    IsWordLetter letter := by
  have range : 65 ≤ letter.toNat ∧ letter.toNat ≤ 122 := by
    rcases Bool.or_eq_true_iff.mp alpha with upper | lower
    · have capital := (isUpper_iff.mp upper).toNat
      omega
    · have small := (isLower_iff.mp lower).toNat
      omega
  exact ⟨by omega, by omega, ne_of_isAlpha alpha rfl⟩

theorem letters_of_all_isAlpha {word : List Char} (alpha : word.all Char.isAlpha = true) :
    ∀ letter ∈ word, IsWordLetter letter :=
  fun letter member => isWordLetter_of_isAlpha (List.all_eq_true.mp alpha letter member)

namespace IsWordLetter

variable {letter : Char} (inside : IsWordLetter letter)

include inside

theorem ne {other : Char} (outside : other.toNat ≤ 0x20 ∨ 0x7F ≤ other.toNat) :
    letter ≠ other := by
  intro same
  subst same
  obtain ⟨above, below, -⟩ := inside
  omega

theorem not_isSpace : isSpace letter = false := by
  have blank : letter ≠ ' ' := inside.ne (by decide)
  have tab : letter ≠ '\t' := inside.ne (by decide)
  simp [isSpace, blank, tab]

theorem not_isBreak : isBreak letter = false := by
  have feed : letter ≠ '\n' := inside.ne (by decide)
  have nextLine : letter ≠ '\x85' := inside.ne (by decide)
  have separator : letter ≠ '\u2028' := inside.ne (by decide)
  have paragraph : letter ≠ '\u2029' := inside.ne (by decide)
  simp [isBreak, feed, nextLine, separator, paragraph]

theorem ne_mark : letter ≠ '\uFEFF' :=
  inside.ne (by decide)

theorem isAllowed : isAllowed letter = true := by
  obtain ⟨above, below, -⟩ := inside
  simp [Yaml.isAllowed]
  omega

theorem not_stopsPlain (rest : List Char) :
    stopsPlain false (letter :: rest) = false := by
  simp [stopsPlain, inside.not_isSpace, inside.not_isBreak, inside.2.2]

end IsWordLetter

namespace Cursor

variable {index line column : Nat}

theorem next_plain {letter : Char} (unbroken : isBreak letter = false)
    (unmarked : letter ≠ '\uFEFF') (rest : List Char) :
    next ⟨letter :: rest, index, line, column⟩ =
      ⟨rest, index + 1, line, column + 1⟩ := by
  simp [next, unbroken, unmarked]

theorem skip_plain {word : List Char}
    (plain : ∀ letter ∈ word, isBreak letter = false ∧ letter ≠ '\uFEFF')
    (rest : List Char) :
    skip word.length ⟨word ++ rest, index, line, column⟩ =
      ⟨rest, index + word.length, line, column + word.length⟩ := by
  induction word generalizing index column with
  | nil => rfl
  | cons first others induction =>
      obtain ⟨here, later⟩ := List.forall_mem_cons.mp plain
      rw [List.length_cons, List.cons_append, skip, next_plain here.1 here.2,
        induction later, Nat.add_right_comm, Nat.add_right_comm column]
      rfl

theorem skip_word {word : List Char} (letters : ∀ letter ∈ word, IsWordLetter letter)
    (rest : List Char) :
    skip word.length ⟨word ++ rest, index, line, column⟩ =
      ⟨rest, index + word.length, line, column + word.length⟩ := by
  apply skip_plain
  intro letter member
  exact ⟨(letters letter member).not_isBreak, (letters letter member).ne_mark⟩

theorem skip_line (width : Nat) (rest : List Char) :
    skip (width + 1) ⟨'\n' :: (List.replicate width ' ' ++ rest), index, line, column⟩ =
      ⟨rest, index + 1 + width, line + 1, width⟩ := by
  have spaces : ∀ letter ∈ List.replicate width ' ',
      isBreak letter = false ∧ letter ≠ '\uFEFF' := by
    intro letter member
    rw [List.eq_of_mem_replicate member]
    decide
  have skipped : skip (List.replicate width ' ').length
      ⟨List.replicate width ' ' ++ rest, index + 1, line + 1, 0⟩ = _ :=
    skip_plain spaces rest
  rw [List.length_replicate, Nat.zero_add] at skipped
  exact skipped

theorem skip_add (first second : Nat) (cursor : Cursor) :
    cursor.skip (first + second) = (cursor.skip first).skip second := by
  induction first generalizing cursor with
  | zero => rw [Nat.zero_add]; rfl
  | succ first induction => rw [Nat.add_right_comm]; exact induction cursor.next

end Cursor

/-- A later line starts with a letter, or there is none. -/
def StartsLine (rest : List Char) : Prop :=
  rest = [] ∨ ∃ first others, rest = first :: others ∧ first.isAlpha = true

theorem IsWord.startsLine {word : List Char} (plain : IsWord word)
    (rest : List Char) : StartsLine (word ++ rest) := by
  obtain ⟨first, others, rfl, letter⟩ := plain.start
  exact .inr ⟨first, others ++ rest, rfl, letter⟩

namespace PlainScalar

variable {indent column : Nat} {rest : List Char}

theorem readFrom_letter {letter : Char} (inside : IsWordLetter letter) :
    readFrom false indent .none column (letter :: rest) =
      (readFrom false indent .none (column + 1) rest).extend [letter] := by
  have blank : letter ≠ ' ' := inside.ne (by decide)
  simp [readFrom, blank, inside.not_isBreak, inside.not_stopsPlain, columnAfter,
    inside.ne_mark, Gap.folded]

theorem readFrom_word {word : List Char}
    (letters : ∀ letter ∈ word, IsWordLetter letter) :
    readFrom false indent .none column (word ++ rest) =
      let tail := readFrom false indent .none (column + word.length) rest
      ⟨word ++ tail.text, tail.length + word.length, tail.broken⟩ := by
  induction word generalizing column with
  | nil => rfl
  | cons first others induction =>
      obtain ⟨here, later⟩ := List.forall_mem_cons.mp letters
      rw [List.cons_append, readFrom_letter here, induction later, List.length_cons,
        Nat.add_right_comm column]
      rfl

theorem readFrom_value (gap : atGap rest = true) :
    readFrom false indent .none column (':' :: rest) = ⟨[], 0, false⟩ := by
  have stops : stopsPlain false (':' :: rest) = true := by
    simp [stopsPlain, gap]
  simp [readFrom, stops, isBreak, Gap.isBroken]

theorem readFrom_indentation {first : Option Char} {more : List Char} {width : Nat}
    (left : column + width < indent) (starts : StartsLine rest) :
    readFrom false indent (.lines first more) column
      (List.replicate width ' ' ++ rest) = ⟨[], width, true⟩ := by
  induction width generalizing column with
  | zero =>
      rcases starts with rfl | ⟨letter, others, rfl, alpha⟩
      · rfl
      · have blank : letter ≠ ' ' := ne_of_isAlpha alpha rfl
        have unbroken := (isWordLetter_of_isAlpha alpha).not_isBreak
        have before : column < indent := left
        simp [readFrom, blank, unbroken, before, Gap.isBroken]
  | succ width induction =>
      rw [List.replicate_succ, List.cons_append]
      have later : column + 1 + width < indent := by omega
      simp [readFrom, Gap.addSpace, induction later, extend]

theorem not_atDocumentMark (starts : StartsLine rest) (width : Nat) :
    atDocumentMark (List.replicate width ' ' ++ rest) = false := by
  cases width with
  | zero =>
      rcases starts with rfl | ⟨letter, others, rfl, alpha⟩
      · rfl
      · have dash : letter ≠ '-' := ne_of_isAlpha alpha rfl
        have point : letter ≠ '.' := ne_of_isAlpha alpha rfl
        simp [atDocumentMark, dash, point]
  | succ width => rfl

theorem readFrom_lineBreak {width : Nat} (left : width < indent)
    (starts : StartsLine rest) :
    readFrom false indent .none column
      ('\n' :: (List.replicate width ' ' ++ rest)) = ⟨[], width + 1, true⟩ := by
  have inside : 0 + width < indent := by omega
  simp [readFrom, isBreak, not_atDocumentMark starts, Gap.addBreak,
    readFrom_indentation inside starts, extend]

end PlainScalar

end ClassTaint.Yaml
