import ClassTaint.Catalog.Entry
import ClassTaint.Proofs.Descriptor.Extent
import ClassTaint.Proofs.Summary.Form

namespace ClassTaint

/-! The form of entries. The texts that are accepted as descriptors and summaries
are those with the parts that the two grammars ask for. -/

namespace Value

variable {value : Value}

theorem isDescriptor_iff :
    value.isDescriptor = true ↔ ∃ text : String, value = .text text ∧
      ∃ levels element, DescriptorParts text.toList levels element := by
  constructor
  · intro accepted
    cases value with
    | text content => exact ⟨content, rfl, isDescriptor_iff_parts.mp accepted⟩
    | _ => cases accepted
  · rintro ⟨text, rfl, parts⟩
    exact isDescriptor_iff_parts.mpr parts

theorem isSummary_iff :
    value.isSummary = true ↔ ∃ text : String, value = .text text ∧
      ∃ word immutable, SummaryForm text.toList word immutable := by
  constructor
  · intro accepted
    cases value with
    | text content => exact ⟨content, rfl, isSummary_iff_form.mp accepted⟩
    | _ => cases accepted
  · rintro ⟨text, rfl, form⟩
    exact isSummary_iff_form.mpr form

end Value

theorem SummaryForm.toNat {text : List Char} {word : Option (List Char)}
    {immutable : Bool} (form : SummaryForm text word immutable) :
    ∀ letter ∈ text, 0x20 < letter.toNat ∧ letter.toNat < 0x7F := by
  intro letter member
  rcases form.letters letter member with (capital | rfl) | rfl
  · have range := IsCapital.toNat capital
    omega
  all_goals decide

/-- What is accepted has the parts of its grammar in one way only. Its letters are
graphic ASCII. Nothing can be put behind a descriptor, and behind a summary only if
it is a bare state name; what can be put before one makes more levels or a longer
name of it. -/
theorem accepts_iff_forms :
    (∀ value : Value, value.isDescriptor = true ↔
      ∃ text : String, value = .text text ∧
        ∃ levels element, DescriptorParts text.toList levels element) ∧
    (∀ descriptor summary : Value, accepts descriptor summary = true ↔
      descriptor.isDescriptor = true ∧ ∃ text : String, summary = .text text ∧
        ∃ word immutable, SummaryForm text.toList word immutable) ∧
    (∀ text levels element, DescriptorParts text levels element →
      (∃ descriptor, Descriptor.parse? text = some descriptor ∧
        descriptor.levels = levels ∧ descriptor.element.parts = element) ∧
      (∀ others other, DescriptorParts text others other →
        others = levels ∧ other = element) ∧
      (∀ letter ∈ text, IsDescriptorLetter letter ∧
        0x20 < letter.toNat ∧ letter.toNat < 0x7F) ∧
      (∀ back, isDescriptor (text ++ back) = true → back = []) ∧
      ∀ front, isDescriptor (front ++ text) = true →
        (∀ letter ∈ front, letter = '[') ∨
          ∃ name, IsClassWord name ∧ text = 'L' :: name ++ [';']) ∧
    (∀ text descriptor, Descriptor.parse? text = some descriptor →
      DescriptorParts text descriptor.levels descriptor.element.parts ∧
        descriptor.print = text) ∧
    ∀ text word immutable, SummaryForm text word immutable →
      (∀ other flag, SummaryForm text other flag →
        other = word ∧ flag = immutable) ∧
      (∀ letter ∈ text,
        ((('A' ≤ letter ∧ letter ≤ 'Z') ∨ letter = '_') ∨ letter = '#') ∧
          0x20 < letter.toNat ∧ letter.toNat < 0x7F) ∧
      (∀ back, isSummary (text ++ back) = true → back = [] ∨ IsStateName text) ∧
      ∀ front, isSummary (front ++ text) = true →
        (∀ letter ∈ front, ('A' ≤ letter ∧ letter ≤ 'Z') ∨ letter = '_') ∨
          text <:+ immutableMarker := by
  refine ⟨fun value => Value.isDescriptor_iff, ?accepted, ?descriptor, ?read,
    ?summary⟩
  case accepted =>
    intro descriptor summary
    rw [accepts, Bool.and_eq_true, Value.isSummary_iff]
  case descriptor =>
    intro text levels element parts
    refine ⟨?_, fun _ _ => parts.unique, ?_, ?_, ?_⟩
    · obtain ⟨descriptor, same, rest⟩ := parts.exists_descriptor
      exact ⟨descriptor, Descriptor.parse?_eq_some_iff.mpr same, rest⟩
    · intro letter member
      have allowed := parts.letters letter member
      exact ⟨allowed, allowed.toNat⟩
    · intro back longer
      obtain ⟨_, _, others⟩ := isDescriptor_iff_parts.mp longer
      exact parts.eq_nil_of_append others
    · intro front longer
      obtain ⟨_, _, others⟩ := isDescriptor_iff_parts.mp longer
      exact parts.front_of_append others
  case read =>
    intro text descriptor read
    have printed := Descriptor.print_of_parse? read
    exact ⟨printed ▸ .ofDescriptor descriptor, printed⟩
  case summary =>
    intro text word immutable form
    refine ⟨fun _ _ => form.unique, ?_, ?_, ?_⟩
    · intro letter member
      exact ⟨form.letters letter member, form.toNat letter member⟩
    · intro back longer
      obtain ⟨_, _, others⟩ := isSummary_iff_form.mp longer
      exact form.back_of_append others
    · intro front longer
      obtain ⟨_, _, others⟩ := isSummary_iff_form.mp longer
      exact others.front_of_append

end ClassTaint
