import ClassTaint.Config
import ClassTaint.Proofs.Text.Trim

namespace ClassTaint

/-! The parts of a written summary: what stands before the marker, and whether
the marker is there. Only one marker is split off, and any text has its parts. -/

/-- The letters from A to Z and the underscore spell the names of states. -/
def IsStateName (word : List Char) : Prop :=
  word ≠ [] ∧ ∀ letter ∈ word, ('A' ≤ letter ∧ letter ≤ 'Z') ∨ letter = '_'

inductive SummaryParts (text : List Char) : List Char → Bool → Prop
  | marked {word : List Char} (whole : text = word ++ immutableMarker) :
      SummaryParts text word true
  | unmarked (absent : ¬ immutableMarker <:+ text) :
      SummaryParts text text false

theorem isStateLetter_iff {letter : Char} :
    isStateLetter letter = true ↔
      ('A' ≤ letter ∧ letter ≤ 'Z') ∨ letter = '_' := by
  have upper : letter.isUpper = true ↔ 'A' ≤ letter ∧ letter ≤ 'Z' :=
    decide_eq_true_iff
  rw [isStateLetter, Bool.or_eq_true, upper, beq_iff_eq]

theorem isStateWord_iff {word : List Char} :
    isStateWord word = true ↔ IsStateName word := by
  simp [isStateWord, IsStateName, isStateLetter_iff]

theorem StateWord.isStateName (word : StateWord) : IsStateName word.letters :=
  isStateWord_iff.mp word.wellFormed

theorem IsStateName.hash_not_mem {word : List Char} (name : IsStateName word) :
    '#' ∉ word := by
  intro member
  exact absurd (name.2 '#' member) (by decide)

theorem IsStateName.not_marked {word : List Char} (name : IsStateName word) :
    ¬ immutableMarker <:+ word := by
  intro marked
  apply name.hash_not_mem
  exact marked.subset (by decide)

theorem IsStateName.toNat {word : List Char} (name : IsStateName word) :
    ∀ letter ∈ word, (65 ≤ letter.toNat ∧ letter.toNat ≤ 90) ∨ letter.toNat = 95 := by
  intro letter member
  rcases name.2 letter member with range | rfl
  · exact .inl (Text.toNat_range range)
  · exact .inr rfl

theorem IsStateName.no_blank {word : List Char} (name : IsStateName word) :
    ∀ letter ∈ word, Text.isBlank letter = false := by
  intro letter member
  have range := name.toNat letter member
  exact Text.not_isBlank_of_range (by omega) (by omega)

theorem immutableMarker_no_blank :
    ∀ letter ∈ immutableMarker, Text.isBlank letter = false := by
  have plain : immutableMarker.any Text.isBlank = false := by decide
  intro letter member
  exact Bool.eq_false_iff.mpr (List.any_eq_false.mp plain letter member)

namespace SummaryParts

variable {text word : List Char} {immutable : Bool}

theorem exists_parts (text : List Char) :
    ∃ word immutable, SummaryParts text word immutable := by
  by_cases marked : immutableMarker <:+ text
  · obtain ⟨word, whole⟩ := marked
    exact ⟨word, true, .marked whole.symm⟩
  · exact ⟨text, false, .unmarked marked⟩

theorem unique {other : List Char} {flag : Bool}
    (parts : SummaryParts text word immutable)
    (others : SummaryParts text other flag) :
    other = word ∧ flag = immutable := by
  cases parts with
  | marked whole =>
      cases others with
      | marked same => exact ⟨List.append_cancel_right (same ▸ whole), rfl⟩
      | unmarked absent => exact absurd ⟨word, whole.symm⟩ absent
  | unmarked absent =>
      cases others with
      | marked whole => exact absurd ⟨other, whole.symm⟩ absent
      | unmarked => exact ⟨rfl, rfl⟩

theorem takeEnding_eq (parts : SummaryParts text word immutable) :
    takeEnding immutableMarker text = (word, immutable) := by
  cases parts with
  | marked whole => simp [takeEnding, whole]
  | unmarked absent => simp [takeEnding, absent]

theorem text_eq (parts : SummaryParts text word immutable) :
    text = word ∨ text = word ++ immutableMarker := by
  cases parts with
  | marked whole => exact .inr whole
  | unmarked => exact .inl rfl

theorem isPrefix_word (parts : SummaryParts text word immutable) :
    word <+: text := by
  rcases parts.text_eq with same | whole
  · exact same ▸ List.prefix_refl word
  · exact ⟨immutableMarker, whole.symm⟩

/-- A marker that is still there after one was split off is a second one. -/
theorem marked_twice (parts : SummaryParts text word immutable)
    (still : immutableMarker <:+ word) :
    immutableMarker ++ immutableMarker <:+ text := by
  cases parts with
  | marked whole =>
      obtain ⟨front, rfl⟩ := still
      exact ⟨front, by rw [whole, List.append_assoc]⟩
  | unmarked absent => exact absurd still absent

theorem text_ne_nil (parts : SummaryParts text word immutable)
    (nonempty : word ≠ []) : text ≠ [] := by
  intro empty
  apply nonempty
  exact List.prefix_nil.mp (empty ▸ parts.isPrefix_word)

theorem ofStateName (name : IsStateName word) : SummaryParts word word false :=
  .unmarked name.not_marked

end SummaryParts

/-- A summary is a nonempty text whose state part, if any, is a name. -/
theorem isSummary_iff {text : List Char} :
    isSummary text = true ↔
      text ≠ [] ∧ ∃ word immutable, SummaryParts text word immutable ∧
        (word = [] ∨ IsStateName word) := by
  simp only [isSummary, Option.isSome_iff_exists, Summary.parse?_eq_some_iff]
  constructor
  · rintro ⟨summary, rfl⟩
    cases summary with
    | state word =>
        have name := word.isStateName
        exact ⟨name.1, word.letters, false, .ofStateName name, .inr name⟩
    | immutable =>
        exact ⟨immutableMarker_ne_nil, [], true, .marked rfl, .inl rfl⟩
    | immutableState word =>
        have name := word.isStateName
        refine ⟨?_, word.letters, true, .marked rfl, .inr name⟩
        exact List.append_ne_nil_of_left_ne_nil name.1 _
  · rintro ⟨nonempty, word, immutable, parts, form⟩
    cases parts with
    | marked whole =>
        rcases form with empty | name
        · exact ⟨.immutable, by simp [whole, empty, Summary.print]⟩
        · exact ⟨.immutableState ⟨word, isStateWord_iff.mpr name⟩, whole⟩
    | unmarked absent =>
        rcases form with empty | name
        · exact absurd empty nonempty
        · exact ⟨.state ⟨text, isStateWord_iff.mpr name⟩, rfl⟩

/-- No part of a summary is blank, so trimming leaves it as it is. -/
theorem trim_of_isSummary {text : List Char} (summary : isSummary text = true) :
    Text.trim text = text := by
  obtain ⟨_, word, immutable, parts, form⟩ := isSummary_iff.mp summary
  have plain : ∀ letter ∈ word, Text.isBlank letter = false := by
    rcases form with rfl | name
    · simp
    · exact name.no_blank
  apply Text.trim_of_no_blank
  rcases parts.text_eq with same | whole
  · exact same ▸ plain
  · intro letter member
    rw [whole, List.mem_append] at member
    rcases member with inWord | inMarker
    · exact plain letter inWord
    · exact immutableMarker_no_blank letter inMarker

end ClassTaint
