import ClassTaint.Yaml.Rule
import Mathlib.Data.List.Infix

namespace ClassTaint.Yaml

/-! The rules for plain scalars exclude each other. A few letters of a text tell
which of them could cover it at all, so their order decides nothing. -/

/-- The tag of the only rule that may cover a text. -/
def outwardTag : List Char → Tag
  | [] => .null
  | first :: rest =>
      if first = '~' then .null
      else if first.isAlpha then
        if rest.head? = some 'u' ∨ rest.head? = some 'U' then .null else .bool
      else if first = '<' then .merge
      else if first = '=' then .value
      else if first = '!' ∨ first = '&' ∨ first = '*' then reservedRule.tag
      else if first.isDigit ∧
          (rest.dropWhile isDigitOrLine).head? = some '-' then .timestamp
      else if first = '.' ∨ '.' ∈ rest then .float
      else .integer

theorem outwardTag_append_line {text : List Char} (nonempty : text ≠ []) :
    outwardTag (text ++ ['\n']) = outwardTag text := by
  cases text with
  | nil => exact absurd rfl nonempty
  | cons first rest =>
      have second : ∀ letter, '\n' ≠ letter →
          ((rest ++ ['\n']).head? = some letter ↔ rest.head? = some letter) := by
        intro letter other
        cases rest <;> simp [other]
      have behind : ((rest ++ ['\n']).dropWhile isDigitOrLine).head? = some '-' ↔
          (rest.dropWhile isDigitOrLine).head? = some '-' := by
        rw [List.dropWhile_append]
        split
        · rename_i gone
          rw [List.isEmpty_iff.mp gone]
          decide
        · rename_i left
          cases dropped : rest.dropWhile isDigitOrLine with
          | nil => simp [dropped] at left
          | cons letter others => rfl
      have point : '.' ∈ rest ++ ['\n'] ↔ '.' ∈ rest := by simp
      simp only [outwardTag, List.cons_append, second 'u' (by decide),
        second 'U' (by decide), behind, point]

namespace Rule

variable {rule : Rule} {text : List Char}

def IsAsked (rule : Rule) : List Char → Prop
  | [] => rule.coversEmpty = true
  | first :: _ => first ∈ rule.starts

theorem covers_iff :
    rule.covers text = true ↔ rule.IsAsked text ∧
      (rule.holds text = true ∨
        ∃ front, text = front ++ ['\n'] ∧ rule.holds front = true) := by
  have last : (text.getLast? = some '\n' ∧ rule.holds text.dropLast = true) ↔
      ∃ front, text = front ++ ['\n'] ∧ rule.holds front = true := by
    rw [List.getLast?_eq_some_iff]
    constructor
    · intro both
      obtain ⟨⟨front, rfl⟩, holds⟩ := both
      rw [List.dropLast_concat] at holds
      exact ⟨front, rfl, holds⟩
    · intro both
      obtain ⟨front, rfl, holds⟩ := both
      rw [List.dropLast_concat]
      exact ⟨⟨front, rfl⟩, holds⟩
  cases text with
  | nil => simp [covers, IsAsked]
  | cons first rest => simp [covers, IsAsked, ← last]

/-- It is enough to know what the rule holds of, without the line feed at the
end. -/
theorem outwardTag_of_covers (lineless : '\n' ∉ rule.starts)
    (tells : ∀ text, rule.IsAsked text → rule.holds text = true →
      outwardTag text = rule.tag)
    (covered : rule.covers text = true) : outwardTag text = rule.tag := by
  obtain ⟨asked, held⟩ := covers_iff.mp covered
  rcases held with whole | ⟨front, rfl, held⟩
  · exact tells text asked whole
  · cases front with
    | nil => exact absurd asked lineless
    | cons first rest =>
        rw [outwardTag_append_line (List.cons_ne_nil first rest)]
        exact tells (first :: rest) asked held

end Rule

theorem isWordOf_iff {words : List String} {text : List Char} :
    isWordOf words text = true ↔ ∃ word ∈ words, word.toList = text := by
  simp [isWordOf]

theorem outwardTag_of_isWordOf {words : List String} {tag : Tag}
    (tells : words.all (fun word => outwardTag word.toList = tag) = true)
    {text : List Char} (held : isWordOf words text = true) :
    outwardTag text = tag := by
  obtain ⟨word, member, rfl⟩ := isWordOf_iff.mp held
  exact of_decide_eq_true (List.all_eq_true.mp tells word member)

section Numbers

variable {first : Char} {rest text : List Char}

theorem outwardTag_of_number (starts : first ∈ floatRule.starts) :
    outwardTag (first :: rest) =
      if first.isDigit ∧ (rest.dropWhile isDigitOrLine).head? = some '-' then
        .timestamp
      else if first = '.' ∨ '.' ∈ rest then .float
      else .integer := by
  have others : floatRule.starts.all (fun letter =>
      letter ≠ '~' && !letter.isAlpha && letter ≠ '<' && letter ≠ '=' &&
        letter ≠ '!' && letter ≠ '&' && letter ≠ '*') = true := by decide
  have plain := List.all_eq_true.mp others first starts
  simp only [ne_eq, decide_not, Bool.and_eq_true, Bool.not_eq_true',
    decide_eq_false_iff_not] at plain
  obtain ⟨⟨⟨⟨⟨⟨tilde, alpha⟩, angle⟩, equals⟩, mark⟩, ampersand⟩, star⟩ := plain
  simp [outwardTag, tilde, alpha, angle, equals, mark, ampersand, star]

theorem dropWhile_of_isDigit (digit : first.isDigit = true) :
    (first :: rest).dropWhile isDigitOrLine = rest.dropWhile isDigitOrLine := by
  simp [isDigitOrLine, digit]

theorem point_mem_dropSign_iff : '.' ∈ dropSign text ↔ '.' ∈ text := by
  unfold dropSign
  split <;> simp

theorem dropSign_of_isDigit (digit : first.isDigit = true) :
    dropSign (first :: rest) = first :: rest := by
  unfold dropSign
  split
  · rename_i same
    cases same
    cases digit
  · rename_i same
    cases same
    cases digit
  · rfl

theorem dropSixties_suffix (text : List Char) : dropSixties text <:+ text := by
  fun_induction dropSixties text with
  | case1 tens ones rest below induction =>
      exact induction.trans ⟨[':', tens, ones], rfl⟩
  | case2 tens ones rest above digit induction =>
      exact induction.trans ⟨[':', tens], rfl⟩
  | case3 => exact List.suffix_refl _
  | case4 => exact List.nil_suffix
  | case5 => exact List.suffix_refl _
  | case6 => exact List.suffix_refl _

theorem mem_of_dropWhile_head {keep : Char → Bool} {letter : Char}
    (next : (text.dropWhile keep).head? = some letter) : letter ∈ text :=
  (List.dropWhile_sublist keep).subset (List.mem_of_head? next)

theorem head_of_isPointNumber (held : isPointNumber text = true) :
    (text.dropWhile isDigitOrLine).head? = some '.' := by
  simp only [isPointNumber, Bool.and_eq_true] at held
  obtain ⟨-, shape⟩ := held
  split at shape
  · rename_i behind
    rw [behind]
    rfl
  · cases shape

theorem head_of_isSixtiesNumber (held : isSixtiesNumber text = true) :
    (text.dropWhile isDigitOrLine).head? = some ':' := by
  simp only [isSixtiesNumber, Bool.and_eq_true, beq_iff_eq] at held
  exact held.1.2

theorem point_mem_of_isSixtiesNumber (held : isSixtiesNumber text = true) :
    '.' ∈ text := by
  simp only [isSixtiesNumber, Bool.and_eq_true] at held
  obtain ⟨-, shape⟩ := held
  split at shape
  · rename_i behind
    have inside := dropSixties_suffix (text.dropWhile isDigitOrLine)
    rw [behind] at inside
    exact (List.dropWhile_sublist isDigitOrLine).subset
      (inside.subset List.mem_cons_self)
  · cases shape

theorem point_mem_of_isFraction (held : isFraction text = true) : '.' ∈ text := by
  unfold isFraction at held
  split at held
  · exact List.mem_cons_self
  · cases held

theorem point_mem_of_isWordOf {words : List String}
    (pointed : words.all (fun word => word.toList.contains '.') = true)
    (held : isWordOf words text = true) : '.' ∈ text := by
  obtain ⟨word, member, rfl⟩ := isWordOf_iff.mp held
  exact List.contains_iff_mem.mp (List.all_eq_true.mp pointed word member)

theorem point_mem_of_isFloat (held : isFloat text = true) : '.' ∈ text := by
  simp only [isFloat, Bool.or_eq_true] at held
  rcases held with (((number | fraction) | sixties) | infinite) | undefined
  · exact point_mem_dropSign_iff.mp (mem_of_dropWhile_head (head_of_isPointNumber number))
  · exact point_mem_of_isFraction fraction
  · exact point_mem_dropSign_iff.mp (point_mem_of_isSixtiesNumber sixties)
  · exact point_mem_dropSign_iff.mp (point_mem_of_isWordOf (by decide) infinite)
  · exact point_mem_of_isWordOf (by decide) undefined

theorem not_isDigit_of_isWordOf {words : List String}
    (pointed : words.all (fun word => word.toList.head? = some '.') = true)
    (held : isWordOf words (first :: rest) = true) : first.isDigit = false := by
  obtain ⟨word, member, same⟩ := isWordOf_iff.mp held
  have starts := of_decide_eq_true (List.all_eq_true.mp pointed word member)
  rw [same] at starts
  cases starts
  decide

/-- Behind the digits at the front a float goes on with a point or a colon. -/
theorem head_of_isFloat (held : isFloat (first :: rest) = true)
    (digit : first.isDigit = true) :
    (rest.dropWhile isDigitOrLine).head? ≠ some '-' := by
  simp only [isFloat, Bool.or_eq_true, dropSign_of_isDigit digit] at held
  rw [← dropWhile_of_isDigit digit]
  rcases held with (((number | fraction) | sixties) | infinite) | undefined
  · rw [head_of_isPointNumber number]
    decide
  · unfold isFraction at fraction
    split at fraction
    · rename_i same
      cases same
      cases digit
    · cases fraction
  · rw [head_of_isSixtiesNumber sixties]
    decide
  · rw [not_isDigit_of_isWordOf (by decide) infinite] at digit
    cases digit
  · rw [not_isDigit_of_isWordOf (by decide) undefined] at digit
    cases digit

theorem outwardTag_of_isFloat (starts : first ∈ floatRule.starts)
    (held : isFloat (first :: rest) = true) :
    outwardTag (first :: rest) = .float := by
  have undated : ¬ (first.isDigit = true ∧
      (rest.dropWhile isDigitOrLine).head? = some '-') := by
    intro both
    exact head_of_isFloat held both.1 both.2
  have pointed : first = '.' ∨ '.' ∈ rest := by
    rcases List.mem_cons.mp (point_mem_of_isFloat held) with here | later
    · exact .inl here.symm
    · exact .inr later
  rw [outwardTag_of_number starts, if_neg undated, if_pos pointed]

theorem letters_of_dropSixties (gone : dropSixties text = []) :
    ∀ letter ∈ text, letter = ':' ∨ letter.isDigit = true := by
  fun_induction dropSixties text with
  | case1 tens ones rest below induction =>
      have tensDigit : tens.isDigit = true := by
        have range := Char.le_trans below.2.1 (show '5' ≤ '9' by decide)
        exact Bool.and_eq_true_iff.mpr
          ⟨decide_eq_true below.1, decide_eq_true range⟩
      simpa [tensDigit, below.2.2] using induction gone
  | case2 tens ones rest above digit induction =>
      simpa [digit] using induction gone
  | case3 => cases gone
  | case4 ones digit => simp [digit]
  | case5 => cases gone
  | case6 =>
      rw [gone]
      exact nofun

/-- Letters that never stand in an integer behind its sign. -/
def IsOutsideInteger (letter : Char) : Prop :=
  letter = '.' ∨ letter = '-'

instance (letter : Char) : Decidable (IsOutsideInteger letter) :=
  inferInstanceAs (Decidable (_ ∨ _))

theorem not_isOutsideInteger_of_all {digits : List Char} {allowed : Char → Bool}
    (all : digits.all allowed = true) (point : allowed '.' = false)
    (dash : allowed '-' = false) : ∀ letter ∈ digits, ¬ IsOutsideInteger letter := by
  intro letter member outside
  have inside := List.all_eq_true.mp all letter member
  rcases outside with rfl | rfl
  · cases point.symm.trans inside
  · cases dash.symm.trans inside

theorem not_isOutsideInteger_of_marked {mark : Char} {digits : List Char}
    {allowed : Char → Bool} (plain : ¬ IsOutsideInteger mark)
    (held : (!digits.isEmpty && digits.all allowed) = true)
    (point : allowed '.' = false) (dash : allowed '-' = false) :
    ∀ letter ∈ '0' :: mark :: digits, ¬ IsOutsideInteger letter := by
  have all := (Bool.and_eq_true_iff.mp held).2
  refine List.forall_mem_cons.mpr ⟨by decide, List.forall_mem_cons.mpr ⟨plain, ?_⟩⟩
  exact not_isOutsideInteger_of_all all point dash

theorem not_isOutsideInteger_of_isInteger (held : isInteger text = true) :
    ∀ letter ∈ dropSign text, ¬ IsOutsideInteger letter := by
  unfold isInteger at held
  split at held
  · rename_i digits written
    rw [written]
    exact not_isOutsideInteger_of_marked (by decide) held rfl rfl
  · rename_i digits written
    rw [written]
    exact not_isOutsideInteger_of_marked (by decide) held rfl rfl
  · rename_i digits _ _ written
    rw [written]
    refine List.forall_mem_cons.mpr ⟨by decide, ?_⟩
    exact not_isOutsideInteger_of_all held rfl rfl
  · intro letter member outside
    rw [Bool.and_eq_true, List.isEmpty_iff] at held
    rw [← List.takeWhile_append_dropWhile (p := isDigitOrLine) (l := dropSign text),
      List.mem_append] at member
    rcases member with inNumber | inSixties
    · exact not_isOutsideInteger_of_all List.all_takeWhile rfl rfl letter inNumber
        outside
    · rcases letters_of_dropSixties held.2 letter inSixties with rfl | digit
      · exact absurd outside (by decide)
      · rcases outside with rfl | rfl <;> cases digit

theorem outwardTag_of_isInteger (starts : first ∈ integerRule.starts)
    (held : isInteger (first :: rest) = true) :
    outwardTag (first :: rest) = .integer := by
  have apart := not_isOutsideInteger_of_isInteger held
  have inFloat : first ∈ floatRule.starts := by
    have both : integerRule.starts.all
        (fun letter => floatRule.starts.contains letter) = true := by decide
    exact List.contains_iff_mem.mp (List.all_eq_true.mp both first starts)
  have undated : ¬ (first.isDigit = true ∧
      (rest.dropWhile isDigitOrLine).head? = some '-') := by
    intro both
    rw [dropSign_of_isDigit both.1] at apart
    have inside := List.mem_cons_of_mem first (mem_of_dropWhile_head both.2)
    exact apart '-' inside (.inr rfl)
  have unpointed : ¬ (first = '.' ∨ '.' ∈ rest) := by
    intro either
    apply apart '.' _ (.inl rfl)
    rw [point_mem_dropSign_iff, List.mem_cons]
    exact either.imp_left Eq.symm
  rw [outwardTag_of_number inFloat, if_neg undated, if_neg unpointed]

theorem exists_of_exactDigits {count value : Nat}
    (read : exactDigits count text = some (value, rest)) :
    ∃ digits : List Char, digits.all Char.isDigit = true ∧ text = digits ++ rest := by
  simp only [exactDigits] at read
  split at read
  · rename_i exact
    cases read
    exact ⟨text.take count, exact.2, (List.take_append_drop count text).symm⟩
  · cases read

theorem eq_of_mark? {mark : Char} (read : mark? mark text = some rest) :
    text = mark :: rest := by
  cases text with
  | nil => cases read
  | cons first others =>
      simp only [mark?] at read
      split at read
      · rename_i same
        cases read
        rw [same]
      · cases read

theorem exists_of_readDate {date : Date} (read : readDate text = some (date, rest)) :
    ∃ digits behind : List Char, digits.all Char.isDigit = true ∧
      text = digits ++ '-' :: behind := by
  simp only [readDate, Option.bind_eq_bind, Option.bind_eq_some_iff] at read
  obtain ⟨⟨year, afterYear⟩, inFour, behind, dash, -⟩ := read
  obtain ⟨digits, all, rfl⟩ := exists_of_exactDigits inFour
  obtain rfl : afterYear = '-' :: behind := eq_of_mark? dash
  exact ⟨digits, behind, all, rfl⟩

theorem exists_of_isTimestamp (held : isTimestamp text = true) :
    ∃ digits behind : List Char, digits.all Char.isDigit = true ∧
      text = digits ++ '-' :: behind := by
  have dated : ∃ date rest, readDate text = some (date, rest) := by
    rw [isTimestamp, Bool.or_eq_true] at held
    rcases held with full | moment
    · rw [isFullDate, Bool.and_eq_true, Option.any_eq_true] at full
      obtain ⟨-, ⟨date, rest⟩, read, -⟩ := full
      exact ⟨date, rest, read⟩
    · cases read : readDate text with
      | none => simp [readCalendar, read] at moment
      | some pair => exact ⟨pair.1, pair.2, rfl⟩
  obtain ⟨date, rest, read⟩ := dated
  exact exists_of_readDate read

theorem outwardTag_of_isTimestamp (starts : first ∈ timestampRule.starts)
    (held : isTimestamp (first :: rest) = true) :
    outwardTag (first :: rest) = .timestamp := by
  have inFloat : first ∈ floatRule.starts :=
    List.mem_cons_of_mem _ (List.mem_cons_of_mem _ (List.mem_cons_of_mem _ starts))
  have digit : first.isDigit = true :=
    List.all_eq_true.mp (show digitLetters.all Char.isDigit = true by decide) first starts
  obtain ⟨digits, behind, all, whole⟩ := exists_of_isTimestamp held
  have dash : (rest.dropWhile isDigitOrLine).head? = some '-' := by
    rw [← dropWhile_of_isDigit digit, whole, List.dropWhile_append_of_pos]
    · rfl
    · intro letter member
      rw [isDigitOrLine, List.all_eq_true.mp all letter member]
      rfl
  rw [outwardTag_of_number inFloat, if_pos ⟨digit, dash⟩]

end Numbers

namespace Rule

variable {rule : Rule} {text : List Char}

theorem outwardTag_of_words {words : List String} (lineless : '\n' ∉ rule.starts)
    (holds : rule.holds = isWordOf words)
    (tells : words.all (fun word => outwardTag word.toList = rule.tag) = true)
    (covered : rule.covers text = true) : outwardTag text = rule.tag := by
  apply outwardTag_of_covers lineless _ covered
  intro text _ held
  rw [holds] at held
  exact outwardTag_of_isWordOf tells held

theorem outwardTag_of_starts (lineless : '\n' ∉ rule.starts)
    (nonempty : rule.coversEmpty = false)
    (tells : ∀ first rest, first ∈ rule.starts → rule.holds (first :: rest) = true →
      outwardTag (first :: rest) = rule.tag)
    (covered : rule.covers text = true) : outwardTag text = rule.tag := by
  apply outwardTag_of_covers lineless _ covered
  intro text asked held
  cases text with
  | nil => cases nonempty.symm.trans asked
  | cons first rest => exact tells first rest asked held

/-- Each of the standard rules covers only texts of its own shape. -/
theorem outwardTag_of_standard (member : rule ∈ standardRules)
    (covered : rule.covers text = true) : outwardTag text = rule.tag := by
  simp only [standardRules, List.mem_cons, List.not_mem_nil, or_false] at member
  rcases member with rfl | rfl | rfl | rfl | rfl | rfl | rfl | rfl
  · exact outwardTag_of_words (by decide) rfl (by decide) covered
  · exact outwardTag_of_starts (by decide) rfl (fun _ _ => outwardTag_of_isFloat) covered
  · exact outwardTag_of_starts (by decide) rfl (fun _ _ => outwardTag_of_isInteger) covered
  · exact outwardTag_of_words (by decide) rfl (by decide) covered
  · exact outwardTag_of_words (by decide) rfl (by decide) covered
  · exact outwardTag_of_starts (by decide) rfl (fun _ _ => outwardTag_of_isTimestamp)
      covered
  · exact outwardTag_of_words (by decide) rfl (by decide) covered
  · exact outwardTag_of_words (by decide) rfl (by decide) covered

end Rule

end ClassTaint.Yaml
