import ClassTaint.Proofs.Summary.Parts
import Mathlib.Data.List.Basic

namespace ClassTaint

/-! The three forms of a summary. No text has two of them, and a summary that has
the marker is complete. -/

/-- A state name, the marker, or a state name with the marker behind it. -/
inductive SummaryForm (text : List Char) : Option (List Char) → Bool → Prop
  | state {word : List Char} (name : IsStateName word) (whole : text = word) :
      SummaryForm text (some word) false
  | immutable (whole : text = immutableMarker) : SummaryForm text none true
  | immutableState {word : List Char} (name : IsStateName word)
      (whole : text = word ++ immutableMarker) : SummaryForm text (some word) true

namespace SummaryForm

variable {text : List Char} {word : Option (List Char)} {immutable : Bool}

theorem parts (form : SummaryForm text word immutable) :
    SummaryParts text (word.getD []) immutable := by
  cases form with
  | state name whole =>
      cases whole
      exact .ofStateName name
  | immutable whole => exact .marked whole
  | immutableState name whole => exact .marked whole

theorem unique {other : Option (List Char)} {flag : Bool}
    (first : SummaryForm text word immutable)
    (second : SummaryForm text other flag) : other = word ∧ flag = immutable := by
  obtain ⟨words, same⟩ := first.parts.unique second.parts
  refine ⟨?_, same⟩
  cases first with
  | state name _ =>
      cases second with
      | state _ _ => exact congrArg some words
      | immutable _ => cases same
      | immutableState _ _ => cases same
  | immutable _ =>
      cases second with
      | state _ _ => cases same
      | immutable _ => rfl
      | immutableState name _ => exact absurd words name.1
  | immutableState name _ =>
      cases second with
      | state _ _ => cases same
      | immutable _ => exact absurd words.symm name.1
      | immutableState _ _ => exact congrArg some words

theorem marked (form : SummaryForm text word true) :
    ∃ front, '#' ∉ front ∧ text = front ++ immutableMarker := by
  cases form with
  | immutable whole => exact ⟨[], List.not_mem_nil, whole⟩
  | immutableState name whole => exact ⟨_, name.hash_not_mem, whole⟩

theorem letters (form : SummaryForm text word immutable) :
    ∀ letter ∈ text,
      (('A' ≤ letter ∧ letter ≤ 'Z') ∨ letter = '_') ∨ letter = '#' := by
  have marker : ∀ letter ∈ immutableMarker,
      (('A' ≤ letter ∧ letter ≤ 'Z') ∨ letter = '_') ∨ letter = '#' := by
    have plain : immutableMarker.all
        (fun letter => isStateLetter letter || letter == '#') = true := rfl
    intro letter member
    have allowed := List.all_eq_true.mp plain letter member
    rwa [Bool.or_eq_true, isStateLetter_iff, beq_iff_eq] at allowed
  intro letter member
  cases form with
  | state name whole => exact .inl (name.2 letter (whole ▸ member))
  | immutable whole => exact marker letter (whole ▸ member)
  | immutableState name whole =>
      rw [whole] at member
      rcases List.mem_append.mp member with inWord | inMarker
      · exact .inl (name.2 letter inWord)
      · exact marker letter inMarker

theorem back_of_append {back : List Char} {other : Option (List Char)}
    {flag : Bool} (form : SummaryForm text word immutable)
    (longer : SummaryForm (text ++ back) other flag) :
    back = [] ∨ IsStateName text := by
  cases immutable with
  | false =>
      cases form with
      | state name whole => exact .inr (whole ▸ name)
  | true =>
      left
      -- The one hash mark of each text stands in the same place.
      obtain ⟨front, plain, rfl⟩ := form.marked
      cases flag with
      | false =>
          cases longer with
          | state name whole =>
              apply absurd _ name.hash_not_mem
              rw [← whole]
              simp [immutableMarker]
      | true =>
          obtain ⟨start, others, whole⟩ := longer.marked
          have hashes : start ++ '#' :: immutableMarker.tail =
              front ++ '#' :: (immutableMarker.tail ++ back) := by
            rw [← List.cons_append, ← List.append_assoc]
            exact whole.symm
          have same := ((List.append_cons_inj_of_notMem others
            (by decide : '#' ∉ immutableMarker.tail)).mp hashes).2.2
          exact List.self_eq_append_right.mp same

/-- Before a summary there is room for state letters, unless it is an ending of
the marker itself. -/
theorem front_of_append {front : List Char}
    (longer : SummaryForm (front ++ text) word immutable) :
    (∀ letter ∈ front, ('A' ≤ letter ∧ letter ≤ 'Z') ∨ letter = '_') ∨
      text <:+ immutableMarker := by
  cases longer with
  | state name whole =>
      left
      intro letter member
      exact name.2 letter (whole ▸ List.mem_append_left text member)
  | immutable whole => exact .inr ⟨front, whole⟩
  | immutableState name whole =>
      rcases List.append_eq_append_iff.mp whole with
        ⟨inner, split, -⟩ | ⟨inner, -, split⟩
      · left
        intro letter member
        exact name.2 letter (split ▸ List.mem_append_left inner member)
      · exact .inr ⟨inner, split.symm⟩

end SummaryForm

theorem isSummary_iff_form {text : List Char} :
    isSummary text = true ↔ ∃ word immutable, SummaryForm text word immutable := by
  simp only [isSummary, Option.isSome_iff_exists, Summary.parse?_eq_some_iff]
  constructor
  · rintro ⟨summary, rfl⟩
    cases summary with
    | state word => exact ⟨_, _, .state word.isStateName rfl⟩
    | immutable => exact ⟨_, _, .immutable rfl⟩
    | immutableState word => exact ⟨_, _, .immutableState word.isStateName rfl⟩
  · rintro ⟨word, immutable, form⟩
    cases form with
    | state name whole => exact ⟨.state ⟨_, isStateWord_iff.mpr name⟩, whole⟩
    | immutable whole => exact ⟨.immutable, whole⟩
    | immutableState name whole =>
        exact ⟨.immutableState ⟨_, isStateWord_iff.mpr name⟩, whole⟩

theorem colon_not_mem_of_isSummary {text : List Char} (written : isSummary text = true) :
    ':' ∉ text := by
  obtain ⟨word, immutable, form⟩ := isSummary_iff_form.mp written
  intro member
  exact absurd (form.letters ':' member) (by decide)

end ClassTaint
