import ClassTaint.Proofs.Yaml.Scalar.Word
import ClassTaint.Yaml.Token.Scanner

namespace ClassTaint.Yaml.Scanner

/-! Single steps of the scanner outside flow: to a word, to the mark behind a key,
and to the end of the text. -/

/-- So many steps lead from one state to another, and none of them is the last. -/
inductive Advances : Nat → Scanner → Scanner → Prop
  | refl (scanner : Scanner) : Advances 0 scanner scanner
  | next {count : Nat} {scanner middle last : Scanner}
      (stepped : scanner.step = .ok middle) (goesOn : middle.isDone = false)
      (later : Advances count middle last) : Advances (count + 1) scanner last

theorem Advances.trans {first second : Nat} {scanner middle last : Scanner}
    (before : Advances first scanner middle) (behind : Advances second middle last) :
    Advances (first + second) scanner last := by
  induction before with
  | refl scanner =>
      rw [Nat.zero_add]
      exact behind
  | next stepped goesOn later induction =>
      rw [Nat.add_right_comm]
      exact .next stepped goesOn (induction behind)

theorem run_of_advances {count : Nat} {scanner last : Scanner}
    (advances : Advances count scanner last) (bound : Nat) :
    run (bound + count) scanner = run bound last := by
  induction advances with
  | refl scanner => rfl
  | next stepped goesOn later induction =>
      rw [← Nat.add_assoc, run, stepped]
      simp only [goesOn, Bool.false_eq_true, if_false]
      exact induction

theorem run_of_isDone {scanner last : Scanner} (stepped : scanner.step = .ok last)
    (done : last.isDone = true) (bound : Nat) :
    run (bound + 1) scanner = ⟨last.tokens.reverse, .malformed⟩ := by
  rw [run, stepped]
  simp only [done, if_true]

section Gaps

variable {tokens : List Token} {columns : List Nat} {candidate : Option Candidate}
variable {allowed : Bool} {letter : Char} {rest : List Char}
variable {index line column : Nat}

theorem gapAhead_spaces (width : Nat) (rest : List Char) :
    gapAhead false (List.replicate width ' ' ++ rest) =
      ((gapAhead false rest).1 + width, (gapAhead false rest).2) := by
  induction width with
  | zero => rfl
  | succ width induction =>
      rw [List.replicate_succ, List.cons_append]
      simp [gapAhead, isBreak, induction, Nat.add_assoc]

/-- There is a character that neither stands in a gap nor starts a comment. -/
structure AtToken (text : List Char) : Prop where
  gap : gapAhead false text = (0, false)
  unmarked : text.head? ≠ some '\uFEFF'

theorem atToken_of_isAlpha (alpha : letter.isAlpha = true) (rest : List Char) :
    AtToken (letter :: rest) := by
  have inside := isWordLetter_of_isAlpha alpha
  have blank : letter ≠ ' ' := ne_of_isAlpha alpha rfl
  have uncommented : letter ≠ '#' := ne_of_isAlpha alpha rfl
  constructor
  · simp [gapAhead, inside.not_isBreak, blank, uncommented]
  · simp [inside.ne_mark]

theorem atToken_colon (rest : List Char) : AtToken (':' :: rest) :=
  ⟨rfl, by simp⟩

theorem skipGap_of_atToken (here : AtToken rest) :
    skipGap ⟨⟨rest, index, line, column⟩, tokens, columns, candidate, [], allowed⟩ =
      ⟨⟨rest, index, line, column⟩, tokens, columns, candidate, [], allowed⟩ := by
  simp [skipGap, skipMark, here.unmarked, here.gap, skip, allowKey, Cursor.skip]

theorem skipGap_space (here : AtToken rest) :
    skipGap ⟨⟨' ' :: rest, index, line, column⟩, tokens, columns, candidate, [],
        allowed⟩ =
      ⟨⟨rest, index + 1, line, column + 1⟩, tokens, columns, candidate, [],
        allowed⟩ := by
  have gap : gapAhead false (' ' :: rest) = (1, false) := by
    have spaces := gapAhead_spaces 1 rest
    rw [here.gap] at spaces
    exact spaces
  simp [skipGap, skipMark, gap, skip, allowKey, Cursor.skip, Cursor.next, isBreak]

theorem skipGap_line (here : AtToken rest) (width : Nat) :
    skipGap ⟨⟨'\n' :: (List.replicate width ' ' ++ rest), index, line, column⟩, tokens,
        columns, candidate, [], allowed⟩ =
      ⟨⟨rest, index + 1 + width, line + 1, width⟩, tokens, columns, candidate, [],
        true⟩ := by
  have gap : gapAhead false ('\n' :: (List.replicate width ' ' ++ rest)) =
      (width + 1, true) := by
    simp [gapAhead, isBreak, gapAhead_spaces, here.gap]
  simp [skipGap, skipMark, gap, skip, allowKey, Cursor.skip_line, inFlow]

theorem skipGap_end :
    skipGap ⟨⟨[], index, line, column⟩, tokens, columns, candidate, [], allowed⟩ =
      ⟨⟨[], index, line, column⟩, tokens, columns, candidate, [], allowed⟩ := by
  simp [skipGap, skipMark, gapAhead, skip, allowKey, Cursor.skip]

end Gaps

section Tokens

variable {scanner : Scanner} {letter : Char} {rest : List Char}

theorem not_isIndicator (alpha : letter.isAlpha = true) : isIndicator letter = false := by
  cases indicator : isIndicator letter with
  | false => rfl
  | true =>
      have member := List.contains_iff_mem.mp indicator
      have others := List.all_eq_true.mp
        (rfl : List.all _ (fun other : Char => !other.isAlpha) = true) letter member
      rw [alpha] at others
      cases others

theorem scanToken_of_isAlpha (alpha : letter.isAlpha = true) :
    scanner.scanToken letter rest = scanner.scanPlain := by
  have inside := isWordLetter_of_isAlpha alpha
  have starts : startsPlain scanner.inFlow letter rest = true := by
    simp [startsPlain, inside.not_isSpace, inside.not_isBreak, not_isIndicator alpha]
  have dash : letter ≠ '-' := ne_of_isAlpha alpha rfl
  have point : letter ≠ '.' := ne_of_isAlpha alpha rfl
  have question : letter ≠ '?' := ne_of_isAlpha alpha rfl
  have bar : letter ≠ '|' := ne_of_isAlpha alpha rfl
  have angle : letter ≠ '>' := ne_of_isAlpha alpha rfl
  have unmarked : atDocumentMark (letter :: rest) = false := by
    simp [atDocumentMark, dash, point]
  -- No letter is one of the marks that are told apart first.
  unfold scanToken
  split
  all_goals try cases alpha
  simp [unmarked, dash, question, inside.2.2, bar, angle, starts]

theorem scanToken_colon (gap : atGap rest = true) :
    scanner.scanToken ':' rest = scanner.scanValue := by
  simp [scanToken, atDocumentMark, gap]

end Tokens

section Steps

variable {scanner : Scanner} {tokens : List Token} {columns : List Nat}
variable {candidate : Option Candidate} {allowed : Bool}
variable {letter : Char} {rest word : List Char} {index line column length : Nat}

/-- No open block is further to the right. -/
def Encloses (columns : List Nat) (column : Nat) : Prop :=
  ∀ outer ∈ columns.head?, outer ≤ column

theorem closeBlocks_of_encloses (scanner : Scanner)
    (inside : Encloses scanner.columns column) :
    scanner.closeBlocks (column < ·) = scanner := by
  obtain ⟨cursor, tokens, columns, candidate, enclosing, allowed⟩ := scanner
  cases columns with
  | nil => simp [closeBlocks]
  | cons outer others =>
      have right : ¬ column < outer := Nat.not_lt.mpr (inside outer rfl)
      simp [closeBlocks, right]

theorem step_of_skipGap
    (gap : scanner.skipGap =
      ⟨⟨letter :: rest, index, line, column⟩, tokens, columns, candidate, [], allowed⟩)
    (fresh : ∀ key ∈ candidate, key.isStale ⟨letter :: rest, index, line, column⟩ = false)
    (inside : Encloses columns column) :
    scanner.step = scanToken letter rest
      ⟨⟨letter :: rest, index, line, column⟩, tokens, columns, candidate, [],
        allowed⟩ := by
  have kept : keepFresh ⟨letter :: rest, index, line, column⟩ candidate =
      .ok candidate := by
    cases candidate with
    | none => rfl
    | some key => simp [keepFresh, fresh key rfl]
  have settled : scanner.skipGap.dropStale = .ok scanner.skipGap := by
    rw [gap, dropStale, kept]
    rfl
  have closed := closeBlocks_of_encloses ⟨⟨letter :: rest, index, line, column⟩, tokens,
    columns, candidate, [], allowed⟩ inside
  rw [step, settled, gap]
  simp only [bind, Except.bind, closed]

theorem step_of_word (plain : IsWord word) (inside : Encloses columns column)
    (gap : scanner.skipGap =
      ⟨⟨word ++ rest, index, line, column⟩, tokens, columns, none, [], allowed⟩) :
    scanner.step = scanPlain
      ⟨⟨word ++ rest, index, line, column⟩, tokens, columns, none, [], allowed⟩ := by
  obtain ⟨first, others, rfl, alpha⟩ := plain.start
  rw [step_of_skipGap gap (by simp) inside, scanToken_of_isAlpha alpha]
  rfl

/-- A word before a value mark may be a key. -/
theorem scanPlain_key (plain : IsWord word) (gap : atGap rest = true) :
    scanPlain ⟨⟨word ++ ':' :: rest, index, line, column⟩, tokens, columns, none, [],
        true⟩ =
      .ok ⟨⟨':' :: rest, index + word.length, line, column + word.length⟩,
        .scalar (String.ofList word) true :: tokens, columns,
        some ⟨tokens.length, columns.head? == some column, index, line, column⟩, [],
        false⟩ := by
  have read (indent : Nat) :
      PlainScalar.read false indent column (word ++ ':' :: rest) =
        ⟨word, word.length, false⟩ := by
    rw [PlainScalar.read, PlainScalar.readFrom_word plain.letters,
      PlainScalar.readFrom_value gap]
    simp
  simp only [scanPlain, saveCandidate, forgetCandidate, bind, Except.bind, pure,
    Except.pure, if_true, inFlow, List.isEmpty_nil, Bool.not_true, read, skip,
    Cursor.skip_word plain.letters, push, allowKey, Bool.not_false, Bool.true_and]

/-- A word behind a value mark takes the line break and the indentation of the next
line with it. -/
theorem scanPlain_value {outer width : Nat} (plain : IsWord word) (left : width ≤ outer)
    (starts : StartsLine rest) :
    scanPlain ⟨⟨word ++ '\n' :: (List.replicate width ' ' ++ rest), index, line, column⟩,
        tokens, outer :: columns, none, [], false⟩ =
      .ok ⟨⟨rest, index + word.length + 1 + width, line + 1, width⟩,
        .scalar (String.ofList word) true :: tokens, outer :: columns, none, [],
        true⟩ := by
  have read : PlainScalar.read false (outer + 1) column
      (word ++ '\n' :: (List.replicate width ' ' ++ rest)) =
        ⟨word, word.length + (width + 1), true⟩ := by
    rw [PlainScalar.read, PlainScalar.readFrom_word plain.letters,
      PlainScalar.readFrom_lineBreak (Nat.lt_succ_of_le left) starts]
    simp [Nat.add_comm (width + 1)]
  simp only [scanPlain, saveCandidate, bind, Except.bind, pure, Except.pure,
    Bool.false_eq_true, if_false, inFlow, List.isEmpty_nil, Bool.not_true, innerColumn,
    read, skip, Cursor.skip_add, Cursor.skip_word plain.letters, Cursor.skip_line, push,
    allowKey]

/-- A block mapping at a column is started, with its token, or is open already. -/
inductive Opens (column : Nat) : List Nat → List Nat → List Token → Prop
  | start {columns : List Nat} (right : ∀ outer ∈ columns.head?, outer < column) :
      Opens column columns (column :: columns) [.blockMappingStart]
  | already {columns : List Nat} :
      Opens column (column :: columns) (column :: columns) []

theorem Opens.encloses {opened : List Nat} {starts : List Token}
    (opens : Opens column columns opened starts) : Encloses columns column := by
  cases opens with
  | start right => exact fun outer member => Nat.le_of_lt (right outer member)
  | already =>
      intro outer member
      cases member
      exact Nat.le_refl column

theorem step_colon {opened : List Nat} {starts : List Token} {token : Token}
    {required : Bool} {later : Nat} (opens : Opens column columns opened starts)
    (gap : atGap rest = true) (near : later ≤ index + 1024) (right : column ≤ length) :
    step ⟨⟨':' :: rest, later, line, length⟩, token :: tokens, columns,
        some ⟨tokens.length, required, index, line, column⟩, [], false⟩ =
      .ok ⟨⟨rest, later + 1, line, length + 1⟩,
        .value :: token :: .key :: (starts ++ tokens), opened, none, [], false⟩ := by
  have inside : Encloses columns length := by
    intro outer member
    exact Nat.le_trans (opens.encloses outer member) right
  rw [step_of_skipGap (skipGap_of_atToken (atToken_colon rest))
    (by simp [Candidate.isStale, near]) inside, scanToken_colon gap]
  have newer : tokens.length + 1 - tokens.length = 1 := Nat.add_sub_cancel_left _ 1
  cases opens with
  | start right =>
      have free : columns.head?.all (· < column) = true := by
        simpa [Option.all_eq_true] using right
      simp [scanValue, opensBlock, inFlow, free, insertAfter, newer, skip, Cursor.skip,
        Cursor.next, isBreak, push, allowKey]
  | already =>
      simp [scanValue, opensBlock, inFlow, insertAfter, newer, skip, Cursor.skip,
        Cursor.next, isBreak, push, allowKey]

theorem closeBlocks_all (outside : scanner.inFlow = false) :
    scanner.closeBlocks (fun _ => true) =
      { scanner with
        columns := []
        tokens := List.replicate scanner.columns.length .blockEnd ++ scanner.tokens } := by
  have taken : scanner.columns.takeWhile (fun _ => true) = scanner.columns :=
    List.takeWhile_eq_self_iff.mpr fun _ _ => rfl
  have dropped : scanner.columns.dropWhile (fun _ => true) = [] :=
    List.dropWhile_eq_nil_iff.mpr fun _ _ => rfl
  simp [closeBlocks, outside, taken, dropped]

/-- Blocks that are closed before all others make no difference. -/
theorem leaveBlocks_closeBlocks (outside : scanner.inFlow = false)
    (closes : Nat → Bool) :
    (scanner.closeBlocks closes).leaveBlocks = scanner.leaveBlocks := by
  have closed : (scanner.columns.dropWhile closes).length +
      (scanner.columns.takeWhile closes).length = scanner.columns.length := by
    rw [Nat.add_comm, ← List.length_append, List.takeWhile_append_dropWhile]
  have still : (scanner.closeBlocks closes).inFlow = false := by
    rw [closeBlocks, if_neg (Bool.eq_false_iff.mp outside)]
    exact outside
  rw [leaveBlocks, leaveBlocks, closeBlocks_all outside, closeBlocks_all still]
  simp only [closeBlocks, outside, Bool.false_eq_true, if_false, ← List.append_assoc,
    List.replicate_append_replicate, closed]

/-- The end of the text closes all blocks that are open. -/
theorem step_end :
    step ⟨⟨[], index, line, column⟩, tokens, columns, none, [], allowed⟩ =
      .ok ⟨⟨[], index, line, column⟩,
        .streamEnd :: (List.replicate columns.length .blockEnd ++ tokens), [], none, [],
        false⟩ := by
  have settled : dropStale ⟨⟨[], index, line, column⟩, tokens, columns, none, [],
      allowed⟩ = .ok ⟨⟨[], index, line, column⟩, tokens, columns, none, [], allowed⟩ :=
    rfl
  have left : leaveBlocks (closeBlocks (column < ·) ⟨⟨[], index, line, column⟩, tokens,
      columns, none, [], allowed⟩) = .ok ⟨⟨[], index, line, column⟩,
        List.replicate columns.length .blockEnd ++ tokens, [], none, [], false⟩ := by
    rw [leaveBlocks_closeBlocks rfl, leaveBlocks, closeBlocks_all rfl]
    rfl
  have rest : (closeBlocks (column < ·) ⟨⟨[], index, line, column⟩, tokens, columns,
      none, [], allowed⟩).cursor.rest = [] := rfl
  rw [step, skipGap_end, settled]
  simp only [bind, Except.bind, rest, left]
  rfl

end Steps

end ClassTaint.Yaml.Scanner
