import ClassTaint.Proofs.Descriptor.Extent
import ClassTaint.Proofs.Summary.Form
import ClassTaint.Proofs.Yaml.Rule.Outward
import ClassTaint.Yaml.Scalar.Content
import Mathlib.Data.List.Nodup

namespace ClassTaint.Yaml

/-! What the rules for null and for truth values decide. Without them the texts
that they cover are left to no other rule, and all others are what they were. -/

section Resolution

variable {rules : List Rule} {rule : Rule} {text : List Char}

theorem covers_of_find? {first : Rule}
    (found : rules.find? (·.covers text) = some first) :
    first ∈ rules ∧ first.covers text = true :=
  ⟨List.mem_of_find?_eq_some found,
    List.find?_some (p := fun rule : Rule => rule.covers text) found⟩

theorem resolve_of_uncovered
    (uncovered : ∀ rule ∈ rules, rule.covers text = false) :
    resolve rules text = .text := by
  have none : rules.find? (·.covers text) = none := by
    apply List.find?_eq_none.mpr
    intro rule member covered
    rw [uncovered rule member] at covered
    cases covered
  rw [resolve, none]

theorem resolve_of_unasked (unasked : ∀ rule ∈ rules, ¬ rule.IsAsked text) :
    resolve rules text = .text := by
  apply resolve_of_uncovered
  intro rule member
  apply Bool.eq_false_iff.mpr
  intro covered
  exact unasked rule member (Rule.covers_iff.mp covered).1

/-- Standard rules may be asked in any order, and some of them left out. -/
theorem resolve_of_covers (standard : rules ⊆ standardRules) (member : rule ∈ rules)
    (covered : rule.covers text = true) : resolve rules text = rule.tag := by
  cases found : rules.find? (·.covers text) with
  | none =>
      have uncovered := List.find?_eq_none.mp found rule member
      exact absurd covered uncovered
  | some first =>
      obtain ⟨listed, covers⟩ := covers_of_find? found
      have shape := Rule.outwardTag_of_standard (standard listed) covers
      rw [resolve, found]
      exact shape.symm.trans (Rule.outwardTag_of_standard (standard member) covered)

theorem exists_of_resolve (other : resolve rules text ≠ .text) :
    ∃ rule ∈ rules, rule.covers text = true ∧ rule.tag = resolve rules text := by
  cases found : rules.find? (·.covers text) with
  | none =>
      rw [resolve, found] at other
      exact absurd rfl other
  | some first =>
      obtain ⟨listed, covers⟩ := covers_of_find? found
      refine ⟨first, listed, covers, ?_⟩
      rw [resolve, found]

end Resolution

section Reduction

variable {rule : Rule} {text : List Char}

theorem mem_reducedRules_iff :
    rule ∈ reducedRules ↔
      rule ∈ standardRules ∧ rule.tag ≠ .null ∧ rule.tag ≠ .bool := by
  simp [reducedRules]

theorem tag_ne_text : ∀ rule ∈ standardRules, rule.tag ≠ .text := by decide

theorem reducedRules_subset : reducedRules ⊆ standardRules := by
  intro rule member
  exact (mem_reducedRules_iff.mp member).1

theorem resolve_reducedRules_of_dropped
    (dropped : resolve standardRules text = .null ∨ resolve standardRules text = .bool) :
    resolve reducedRules text = .text := by
  apply resolve_of_uncovered
  intro rule member
  apply Bool.eq_false_iff.mpr
  intro covered
  -- A rule that is kept would have been the one to decide before.
  obtain ⟨standard, null, bool⟩ := mem_reducedRules_iff.mp member
  rw [resolve_of_covers (List.Subset.refl _) standard covered] at dropped
  exact dropped.elim null bool

theorem resolve_reducedRules_of_kept (null : resolve standardRules text ≠ .null)
    (bool : resolve standardRules text ≠ .bool) :
    resolve reducedRules text = resolve standardRules text := by
  by_cases free : resolve standardRules text = .text
  · rw [free]
    apply resolve_of_uncovered
    intro rule member
    apply Bool.eq_false_iff.mpr
    intro covered
    have standard := reducedRules_subset member
    rw [resolve_of_covers (List.Subset.refl _) standard covered] at free
    exact tag_ne_text rule standard free
  · obtain ⟨rule, member, covered, tag⟩ := exists_of_resolve free
    rw [← tag] at null bool ⊢
    exact resolve_of_covers reducedRules_subset
      (mem_reducedRules_iff.mpr ⟨member, null, bool⟩) covered

theorem resolve_reducedRules_eq (text : List Char) :
    resolve reducedRules text =
      if resolve standardRules text = .null ∨ resolve standardRules text = .bool then
        .text
      else
        resolve standardRules text := by
  split
  · rename_i dropped
    exact resolve_reducedRules_of_dropped dropped
  · rename_i kept
    rw [not_or] at kept
    exact resolve_reducedRules_of_kept kept.1 kept.2

end Reduction

section Words

variable {rule : Rule} {words : List String} {text : List Char}

/-- A text is one of some words, perhaps with a line feed behind it. -/
def IsLineOf (words : List String) (text : List Char) : Prop :=
  ∃ word ∈ words, text = word.toList ∨ text = word.toList ++ ['\n']

theorem Rule.isLineOf_of_covers (holds : rule.holds = isWordOf words)
    (covered : rule.covers text = true) : IsLineOf words text := by
  obtain ⟨-, held⟩ := covers_iff.mp covered
  rw [holds] at held
  rcases held with whole | ⟨front, rfl, held⟩
  · obtain ⟨word, member, rfl⟩ := isWordOf_iff.mp whole
    exact ⟨word, member, .inl rfl⟩
  · obtain ⟨word, member, rfl⟩ := isWordOf_iff.mp held
    exact ⟨word, member, .inr rfl⟩

theorem truthRule_covers_iff :
    truthRule.covers text = true ↔ IsLineOf truthWords text := by
  constructor
  · exact Rule.isLineOf_of_covers rfl
  · intro line
    obtain ⟨word, member, shape⟩ := line
    have both : truthWords.all (fun word => truthRule.covers word.toList &&
        truthRule.covers (word.toList ++ ['\n'])) = true := by decide
    have covered := Bool.and_eq_true_iff.mp (List.all_eq_true.mp both word member)
    rcases shape with rfl | rfl
    · exact covered.1
    · exact covered.2

/-- A line feed alone is not asked about. -/
theorem nullRule_covers_iff :
    nullRule.covers text = true ↔ IsLineOf nullWords text ∧ text ≠ ['\n'] := by
  constructor
  · intro covered
    refine ⟨Rule.isLineOf_of_covers rfl covered, ?_⟩
    intro line
    rw [line] at covered
    exact absurd covered (by decide)
  · intro both
    obtain ⟨⟨word, member, shape⟩, different⟩ := both
    have each : nullWords.all (fun word => nullRule.covers word.toList &&
        (word.toList ++ ['\n'] == ['\n'] ||
          nullRule.covers (word.toList ++ ['\n']))) = true := by decide
    have covered := List.all_eq_true.mp each word member
    rw [Bool.and_eq_true, Bool.or_eq_true, beq_iff_eq] at covered
    rcases shape with rfl | rfl
    · exact covered.1
    · exact covered.2.resolve_left different

theorem eq_of_tag_eq {other : Rule} (member : rule ∈ standardRules)
    (listed : other ∈ standardRules) (same : rule.tag = other.tag) : rule = other :=
  List.inj_on_of_nodup_map (show (standardRules.map (·.tag)).Nodup by decide)
    member listed same

theorem resolve_eq_tag_iff (member : rule ∈ standardRules) :
    resolve standardRules text = rule.tag ↔ rule.covers text = true := by
  constructor
  · intro same
    have other : resolve standardRules text ≠ .text := by
      rw [same]
      exact tag_ne_text rule member
    obtain ⟨found, listed, covered, tag⟩ := exists_of_resolve other
    rw [← eq_of_tag_eq listed member (tag.trans same)]
    exact covered
  · exact resolve_of_covers (List.Subset.refl _) member

theorem resolve_eq_bool_iff :
    resolve standardRules text = .bool ↔ IsLineOf truthWords text := by
  have listed : truthRule ∈ standardRules := by simp [standardRules]
  exact (resolve_eq_tag_iff listed).trans truthRule_covers_iff

theorem resolve_eq_null_iff :
    resolve standardRules text = .null ↔
      IsLineOf nullWords text ∧ text ≠ ['\n'] := by
  have listed : nullRule ∈ standardRules := by simp [standardRules]
  exact (resolve_eq_tag_iff listed).trans nullRule_covers_iff

/-- Lone marks are no plain scalars, and all other texts are values or keys of a
known kind. -/
theorem tag_reducedRules (text : List Char) :
    resolve reducedRules text ∈
        [.integer, .float, .timestamp, .merge, .value, .text] ∨
      IsLineOf ["!", "&", "*"] text := by
  by_cases free : resolve reducedRules text = .text
  · rw [free]
    exact .inl (by decide)
  · obtain ⟨rule, member, covered, tag⟩ := exists_of_resolve free
    rw [← tag]
    by_cases reserved : rule.tag = reservedRule.tag
    · have same := eq_of_tag_eq (reducedRules_subset member)
        (by simp [standardRules]) reserved
      rw [same] at covered
      exact .inr (Rule.isLineOf_of_covers rfl covered)
    · have known : ∀ rule ∈ reducedRules, rule.tag ≠ reservedRule.tag →
          rule.tag ∈ [Tag.integer, .float, .timestamp, .merge, .value, .text] := by
        decide
      exact .inl (known rule member reserved)

end Words

section Vocabulary

variable {first : Char} {rest text : List Char}

/-- The letters that summaries and descriptors start with. -/
def opensVocabulary (letter : Char) : Bool :=
  isStateLetter letter || letter == '#' || letter == '['

theorem resolve_of_opensVocabulary (opens : opensVocabulary first = true) :
    resolve reducedRules (first :: rest) = .text := by
  have others : reducedRules.all (fun rule =>
      rule.starts.all fun letter => !opensVocabulary letter) = true := by decide
  apply resolve_of_unasked
  intro rule member asked
  have closed := List.all_eq_true.mp (List.all_eq_true.mp others rule member) first asked
  rw [opens] at closed
  cases closed

theorem opensVocabulary_of_isSummary (written : isSummary (first :: rest) = true) :
    opensVocabulary first = true := by
  obtain ⟨word, immutable, form⟩ := isSummary_iff_form.mp written
  rcases form.letters first List.mem_cons_self with letter | rfl
  · simp [opensVocabulary, isStateLetter_iff.mpr letter]
  · decide

theorem opensVocabulary_of_isDescriptor (written : isDescriptor (first :: rest) = true) :
    opensVocabulary first = true := by
  obtain ⟨levels, element, parts⟩ := isDescriptor_iff_parts.mp written
  by_cases bracket : first = '['
  · rw [bracket]
    decide
  · have capital := isUpper_iff.mpr (parts.isCapital_of_head bracket)
    simp [opensVocabulary, isStateLetter, capital]

theorem resolve_of_vocabulary
    (written : isSummary text = true ∨ isDescriptor text = true) :
    resolve reducedRules text = .text := by
  cases text with
  | nil =>
      rcases written with summary | descriptor
      · exact absurd summary (by decide)
      · exact absurd descriptor (by decide)
  | cons first rest =>
      apply resolve_of_opensVocabulary
      rcases written with summary | descriptor
      · exact opensVocabulary_of_isSummary summary
      · exact opensVocabulary_of_isDescriptor descriptor

end Vocabulary

/-- Leaving out the rules for null and for truth values makes texts of the words
that they cover, and changes nothing else. What catalogs are made of was covered by
none of the rules that are kept. -/
theorem resolve_reducedRules (text : List Char) :
    (∀ rule ∈ standardRules, ∀ other ∈ standardRules,
      rule.covers text = true → other.covers text = true → rule.tag = other.tag) ∧
    (resolve standardRules text = .null ↔
      IsLineOf nullWords text ∧ text ≠ ['\n']) ∧
    (resolve standardRules text = .bool ↔ IsLineOf truthWords text) ∧
    (resolve reducedRules text =
      if resolve standardRules text = .null ∨ resolve standardRules text = .bool then
        .text
      else
        resolve standardRules text) ∧
    (resolve reducedRules text ∈
        [.integer, .float, .timestamp, .merge, .value, .text] ∨
      IsLineOf ["!", "&", "*"] text) ∧
    (isSummary text = true ∨ isDescriptor text = true →
      resolve reducedRules text = .text ∧
      ∀ place, scalarValue (resolve reducedRules text) place text =
        .ok (.text (String.ofList text))) := by
  refine ⟨?apart, resolve_eq_null_iff, resolve_eq_bool_iff,
    resolve_reducedRules_eq text, tag_reducedRules text, ?vocabulary⟩
  case apart =>
    intro rule member other listed covered covers
    rw [← Rule.outwardTag_of_standard member covered]
    exact Rule.outwardTag_of_standard listed covers
  case vocabulary =>
    intro written
    rw [resolve_of_vocabulary written]
    exact ⟨rfl, fun _ => rfl⟩

end ClassTaint.Yaml
