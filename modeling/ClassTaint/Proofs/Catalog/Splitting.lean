import ClassTaint.Catalog.Entry
import Mathlib.Data.List.Basic

namespace ClassTaint

/-! Splitting a text at one of its separators. A text with a single separator is split
in one way only, wherever the separator is looked for first. -/

section Last

variable {separator : Char} {text before after : List Char}

theorem splitAtLast_eq_some_iff :
    splitAtLast separator text = some (before, after) ↔
      text = before ++ separator :: after ∧ separator ∉ after := by
  constructor
  · intro split
    have member : separator ∈ text := by
      by_contra absent
      cases (splitAtLast_eq_none_iff.mpr absent).symm.trans split
    -- The last separator is the first one of the reversed text.
    obtain ⟨back, front, reversed, absent⟩ :=
      List.eq_append_cons_of_mem (List.mem_reverse.mpr member)
    have whole : text = front.reverse ++ separator :: back.reverse := by
      rw [← List.reverse_reverse text, reversed]
      simp
    have last : separator ∉ back.reverse := by simpa using absent
    rw [whole, splitAtLast_append last] at split
    cases split
    exact ⟨whole, last⟩
  · rintro ⟨rfl, last⟩
    exact splitAtLast_append last before

end Last

def splitAtFirst (separator : Char) : List Char → Option (List Char × List Char)
  | [] => none
  | letter :: rest =>
      if letter = separator then
        some ([], rest)
      else
        match splitAtFirst separator rest with
        | some (before, after) => some (letter :: before, after)
        | none => none

/-- A way to split the texts that have a separator at one of them, whichever it is. -/
structure Splits (separator : Char)
    (split : List Char → Option (List Char × List Char)) : Prop where
  none_iff (text : List Char) : split text = none ↔ separator ∉ text
  whole {text before after : List Char} (parts : split text = some (before, after)) :
    text = before ++ separator :: after

theorem splits_splitAtLast (separator : Char) :
    Splits separator (splitAtLast separator) where
  none_iff _ := splitAtLast_eq_none_iff
  whole parts := (splitAtLast_eq_some_iff.mp parts).1

theorem splits_splitAtFirst (separator : Char) :
    Splits separator (splitAtFirst separator) where
  none_iff text := by
    induction text with
    | nil => simp [splitAtFirst]
    | cons letter rest induction =>
        by_cases same : letter = separator
        · simp [splitAtFirst, same]
        · cases split : splitAtFirst separator rest with
          | none => simp [splitAtFirst, same, split, induction.mp split, Ne.symm same]
          | some parts =>
              have member : separator ∈ rest := by
                by_contra absent
                cases (induction.mpr absent).symm.trans split
              simp [splitAtFirst, same, split, member]
  whole {text before after} parts := by
    induction text generalizing before with
    | nil => cases parts
    | cons letter rest induction =>
        rw [splitAtFirst] at parts
        split at parts
        · rename_i same
          cases parts
          rw [same]
          rfl
        · split at parts
          · rename_i found
            cases parts
            rw [induction found]
            rfl
          · cases parts

variable {separator : Char} {split : List Char → Option (List Char × List Char)}

theorem Splits.eq_of_single (splits : Splits separator split) {before after : List Char}
    (front : separator ∉ before) (back : separator ∉ after) :
    split (before ++ separator :: after) = some (before, after) := by
  cases parts : split (before ++ separator :: after) with
  | none =>
      have absent := (splits.none_iff _).mp parts
      exact absurd (List.mem_append_right before List.mem_cons_self) absent
  | some parted =>
      have same := splits.whole parts
      obtain ⟨fronts, -, backs⟩ :=
        (List.append_cons_inj_of_notMem front back).mp same
      rw [fronts, backs]

end ClassTaint
