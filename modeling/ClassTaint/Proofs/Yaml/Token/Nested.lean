import ClassTaint.Proofs.Yaml.Token.Steps

namespace ClassTaint.Yaml

/-! Texts with a mapping of words under one name, and their tokens. Each line holds
a pair, and all of them are indented alike. -/

structure IsWordKey (word : String) : Prop where
  plain : IsWord word.toList
  short : word.length ≤ 1024

structure IsWordPair (pair : String × String) : Prop where
  key : IsWordKey pair.1
  value : IsWord pair.2.toList

def pairText (pair : String × String) : List Char :=
  pair.1.toList ++ ':' :: ' ' :: (pair.2.toList ++ ['\n'])

def linesText (width : Nat) (pairs : List (String × String)) : List Char :=
  pairs.flatMap fun pair => List.replicate width ' ' ++ pairText pair

def nestedText (name : String) (width : Nat) (pairs : List (String × String)) :
    List Char :=
  name.toList ++ ':' :: '\n' :: linesText width pairs

def pairTokens (pair : String × String) : List Token :=
  [.key, .scalar pair.1 true, .value, .scalar pair.2 true]

def nestedTokens (name : String) (pairs : List (String × String)) : List Token :=
  .blockMappingStart :: .key :: .scalar name true :: .value :: .blockMappingStart ::
    (pairs.flatMap pairTokens ++ [.blockEnd, .blockEnd, .streamEnd])

theorem linesText_cons (width : Nat) (first : String × String)
    (others : List (String × String)) :
    linesText width (first :: others) =
      List.replicate width ' ' ++ (pairText first ++ linesText width others) := by
  simp [linesText]

theorem length_linesText (width : Nat) (pairs : List (String × String)) :
    3 * pairs.length ≤ (linesText width pairs).length := by
  induction pairs with
  | nil => exact Nat.zero_le _
  | cons first others induction =>
      have line : 3 ≤ (pairText first).length := by
        simp [pairText]
        omega
      rw [linesText_cons, List.length_cons, List.length_append, List.length_append]
      omega

theorem IsWordPair.startsLine {pair : String × String} (words : IsWordPair pair)
    (rest : List Char) : StartsLine (pairText pair ++ rest) := by
  rw [pairText, List.append_assoc]
  exact words.key.plain.startsLine _

theorem IsWord.atToken {word : List Char} (plain : IsWord word) (rest : List Char) :
    Scanner.AtToken (word ++ rest) := by
  obtain ⟨first, others, rfl, alpha⟩ := plain.start
  exact Scanner.atToken_of_isAlpha alpha _

theorem IsWordPair.atToken {pair : String × String} (words : IsWordPair pair)
    (rest : List Char) : Scanner.AtToken (pairText pair ++ rest) := by
  rw [pairText, List.append_assoc]
  exact words.key.plain.atToken _

namespace Scanner

variable {scanner : Scanner} {tokens starts : List Token} {columns opened : List Nat}
variable {rest : List Char} {index line column length : Nat}

theorem advances_key {key : String} (words : IsWordKey key)
    (opens : Opens column columns opened starts) (gap : atGap rest = true)
    (here : scanner.skipGap =
      ⟨⟨key.toList ++ ':' :: rest, index, line, column⟩, tokens, columns, none, [],
        true⟩) :
    Advances 2 scanner
      ⟨⟨rest, index + key.length + 1, line, column + key.length + 1⟩,
        .value :: .scalar key true :: .key :: (starts ++ tokens), opened, none, [],
        false⟩ := by
  have near : index + key.length ≤ index + 1024 := Nat.add_le_add_left words.short index
  have scanned := (step_of_word words.plain opens.encloses here).trans
    (scanPlain_key words.plain gap)
  rw [String.ofList_toList, String.length_toList] at scanned
  exact .next scanned rfl
    (.next (step_colon opens gap near (Nat.le_add_right _ _)) rfl (.refl _))

theorem advances_value {value : String} {width : Nat} {outer : List Nat}
    (plain : IsWord value.toList) (left : width ≤ column) (right : column ≤ length)
    (starts : StartsLine rest) :
    Advances 1
      ⟨⟨' ' :: (value.toList ++ '\n' :: (List.replicate width ' ' ++ rest)), index, line,
        length⟩, tokens, column :: outer, none, [], false⟩
      ⟨⟨rest, index + 1 + value.length + 1 + width, line + 1, width⟩,
        .scalar value true :: tokens, column :: outer, none, [], true⟩ := by
  have inside : Encloses (column :: outer) (length + 1) := by
    intro other member
    cases member
    omega
  refine .next ?_ rfl (.refl _)
  rw [step_of_word plain inside (skipGap_space (plain.atToken _)),
    scanPlain_value plain left starts, String.ofList_toList, String.length_toList]

theorem advances_pair {pair : String × String} {width : Nat} {outer : List Nat}
    (words : IsWordPair pair) (left : width ≤ column)
    (opens : Opens column columns (column :: outer) starts) (next : StartsLine rest)
    (here : scanner.skipGap =
      ⟨⟨pairText pair ++ (List.replicate width ' ' ++ rest), index, line, column⟩, tokens,
        columns, none, [], true⟩) :
    ∃ later, Advances 3 scanner
      ⟨⟨rest, later, line + 1, width⟩, (pairTokens pair).reverse ++ (starts ++ tokens),
        column :: outer, none, [], true⟩ := by
  rw [pairText, List.append_assoc, List.cons_append, List.cons_append,
    List.append_assoc] at here
  have inside : column ≤ column + pair.1.length + 1 := by omega
  exact ⟨_, (advances_key words.key opens rfl here).trans
    (advances_value words.value left inside next)⟩

theorem advances_lines {width : Nat} {outer : List Nat} {first : String × String}
    {others : List (String × String)} (words : ∀ pair ∈ first :: others, IsWordPair pair)
    (opens : Opens width columns (width :: outer) starts)
    (here : scanner.skipGap =
      ⟨⟨pairText first ++ linesText width others, index, line, width⟩, tokens, columns,
        none, [], true⟩) :
    ∃ later last, Advances (3 * (first :: others).length) scanner
      ⟨⟨[], later, last, 0⟩,
        ((first :: others).flatMap pairTokens).reverse ++ (starts ++ tokens),
        width :: outer, none, [], true⟩ := by
  -- The first pair may open the mapping, and those behind it find it open.
  induction others generalizing scanner first columns starts tokens index line with
  | nil =>
      obtain ⟨later, advances⟩ := advances_pair (words first List.mem_cons_self)
        (Nat.zero_le width) opens (.inl rfl) here
      exact ⟨later, _, by simpa using advances⟩
  | cons next others induction =>
      obtain ⟨word, more⟩ := List.forall_mem_cons.mp words
      have starting := (more next List.mem_cons_self).startsLine
        (linesText width others)
      rw [linesText_cons] at here
      obtain ⟨middle, front⟩ := advances_pair word (Nat.le_refl width) opens starting here
      obtain ⟨later, last, back⟩ := induction more .already
        (skipGap_of_atToken ((more next List.mem_cons_self).atToken _))
      refine ⟨later, last, ?_⟩
      have whole := front.trans back
      rw [Nat.add_comm 3, ← Nat.mul_succ, List.nil_append, ← List.append_assoc,
        ← List.reverse_append] at whole
      exact whole

/-- The step that meets the end of the text is the last one. -/
theorem run_of_advances_end {count bound later last : Nat}
    (advances : Advances count scanner
      ⟨⟨[], later, last, 0⟩, tokens, columns, none, [], true⟩)
    (enough : count < bound) :
    run bound scanner =
      ⟨tokens.reverse ++ (List.replicate columns.length .blockEnd ++ [.streamEnd]),
        .malformed⟩ := by
  obtain ⟨more, rfl⟩ := Nat.exists_eq_add_of_lt enough
  have steps : count + more + 1 = more + 1 + count := by omega
  rw [steps, run_of_advances advances, run_of_isDone step_end rfl]
  simp

/-- The name opens the outer mapping, and the first line opens the inner one. -/
theorem advances_nested {name : String} {width : Nat} {pairs : List (String × String)}
    (named : IsWordKey name) (indented : 0 < width) (nonempty : pairs ≠ [])
    (words : ∀ pair ∈ pairs, IsWordPair pair) :
    ∃ later last, Advances (2 + 3 * pairs.length) (start (nestedText name width pairs))
      ⟨⟨[], later, last, 0⟩,
        (pairs.flatMap pairTokens).reverse ++
          [.blockMappingStart, .value, .scalar name true, .key, .blockMappingStart],
        [width, 0], none, [], true⟩ := by
  obtain ⟨first, others, rfl⟩ := List.exists_cons_of_ne_nil nonempty
  have outer : Opens 0 [] [0] [.blockMappingStart] :=
    .start fun _ member => nomatch member
  have inner : Opens width [0] [width, 0] [.blockMappingStart] := by
    refine .start ?_
    intro column member
    cases member
    exact indented
  have here : (start (nestedText name width (first :: others))).skipGap =
      ⟨⟨name.toList ++ ':' :: '\n' :: linesText width (first :: others), 0, 0, 0⟩, [], [],
        none, [], true⟩ := skipGap_of_atToken (named.plain.atToken _)
  have header := advances_key named outer (by rfl) here
  rw [linesText_cons] at header
  obtain ⟨later, last, lines⟩ := advances_lines words inner
    (skipGap_line ((words first List.mem_cons_self).atToken _) width)
  exact ⟨later, last, header.trans lines⟩

end Scanner

theorem tokensOf_nested {name : String} {width : Nat} {pairs : List (String × String)}
    (named : IsWordKey name) (indented : 0 < width) (nonempty : pairs ≠ [])
    (words : ∀ pair ∈ pairs, IsWordPair pair) :
    tokensOf (nestedText name width pairs) = ⟨nestedTokens name pairs, .malformed⟩ := by
  obtain ⟨later, last, advances⟩ :=
    Scanner.advances_nested named indented nonempty words
  have enough : 2 + 3 * pairs.length < (nestedText name width pairs).length + 1 := by
    have long := length_linesText width pairs
    simp only [nestedText, List.length_append, List.length_cons] at long ⊢
    omega
  rw [tokensOf, Scanner.run_of_advances_end advances enough]
  simp [nestedTokens]

end ClassTaint.Yaml
