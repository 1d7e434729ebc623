namespace ClassTaint

/-! Written class summaries. A summary is a state word, the immutability marker,
or a state word with the marker right after it. -/

def isStateLetter (letter : Char) : Bool :=
  letter.isUpper || letter == '_'

/-- State words are nonempty words of capitals and underscores. -/
def isStateWord (text : List Char) : Bool :=
  !text.isEmpty && text.all isStateLetter

structure StateWord where
  letters : List Char
  wellFormed : isStateWord letters = true
  deriving DecidableEq, Repr

def StateWord.ofLetters? (letters : List Char) : Option StateWord :=
  if wellFormed : isStateWord letters = true then
    some ⟨letters, wellFormed⟩
  else
    none

namespace StateWord

@[simp] theorem ofLetters?_letters (word : StateWord) :
    ofLetters? word.letters = some word := by
  simp [ofLetters?, word.wellFormed]

theorem letters_of_ofLetters? {letters : List Char} {word : StateWord}
    (read : ofLetters? letters = some word) : word.letters = letters := by
  unfold ofLetters? at read
  split at read
  · cases read
    rfl
  · cases read

theorem ofLetters?_eq_none_iff {letters : List Char} :
    ofLetters? letters = none ↔ ¬ isStateWord letters = true := by
  simp [ofLetters?]

theorem all_isStateLetter (word : StateWord) :
    word.letters.all isStateLetter = true := by
  have wellFormed := word.wellFormed
  simp only [isStateWord, Bool.and_eq_true] at wellFormed
  exact wellFormed.2

end StateWord

/-- The mark of classes whose instances no call can taint. -/
def immutableMarker : List Char :=
  ['#', 'I', 'M', 'M', 'U', 'T', 'A', 'B', 'L', 'E']

theorem immutableMarker_ne_nil : immutableMarker ≠ [] := by
  decide

inductive Summary
  | state (word : StateWord)
  | immutable
  | immutableState (word : StateWord)
  deriving DecidableEq, Repr

namespace Summary

def print : Summary → List Char
  | state word => word.letters
  | immutable => immutableMarker
  | immutableState word => word.letters ++ immutableMarker

/-- The state letters at the front are the word; nothing or the marker may
follow it, and without a word only the marker is left. -/
def parse? (text : List Char) : Option Summary :=
  let rest := text.dropWhile isStateLetter
  match StateWord.ofLetters? (text.takeWhile isStateLetter) with
  | none => if rest = immutableMarker then some immutable else none
  | some word =>
      if rest = [] then some (state word)
      else if rest = immutableMarker then some (immutableState word)
      else none

theorem parse?_print (summary : Summary) :
    parse? summary.print = some summary := by
  have stops : ∀ letters : List Char, letters.all isStateLetter = true →
      (letters ++ immutableMarker).takeWhile isStateLetter = letters ∧
        (letters ++ immutableMarker).dropWhile isStateLetter =
          immutableMarker := by
    intro letters all
    rw [List.takeWhile_append_of_pos (List.all_eq_true.mp all),
      List.dropWhile_append_of_pos (List.all_eq_true.mp all)]
    exact ⟨List.append_nil letters, rfl⟩
  cases summary with
  | state word =>
      have all := word.all_isStateLetter
      have whole : (word.letters ++ []).takeWhile isStateLetter =
          word.letters ++ [] :=
        List.takeWhile_append_of_pos (List.all_eq_true.mp all)
      have rest : (word.letters ++ []).dropWhile isStateLetter = [] :=
        List.dropWhile_append_of_pos (List.all_eq_true.mp all)
      rw [List.append_nil] at whole rest
      simp [parse?, print, whole, rest]
  | immutable => rfl
  | immutableState word =>
      obtain ⟨front, back⟩ := stops word.letters word.all_isStateLetter
      simp [parse?, print, front, back, immutableMarker_ne_nil]

theorem print_of_parse? {text : List Char} {summary : Summary}
    (read : parse? text = some summary) : summary.print = text := by
  have split : text.takeWhile isStateLetter ++
      text.dropWhile isStateLetter = text := List.takeWhile_append_dropWhile
  unfold parse? at read
  cases found : StateWord.ofLetters? (text.takeWhile isStateLetter) with
  | none =>
      rw [found] at read
      have empty : text.takeWhile isStateLetter = [] := by
        cases letters : text.takeWhile isStateLetter with
        | nil => rfl
        | cons first rest =>
            have refused := StateWord.ofLetters?_eq_none_iff.mp found
            rw [isStateWord, List.all_takeWhile, letters] at refused
            exact absurd rfl refused
      by_cases marked : text.dropWhile isStateLetter = immutableMarker
      · simp only [marked, if_true, Option.some.injEq] at read
        rw [← read, print, ← marked]
        simpa [empty] using split
      · simp [marked] at read
  | some word =>
      rw [found] at read
      have letters := StateWord.letters_of_ofLetters? found
      by_cases ended : text.dropWhile isStateLetter = []
      · simp only [ended, if_true, Option.some.injEq] at read
        rw [← read, print, letters]
        simpa [ended] using split
      · by_cases marked : text.dropWhile isStateLetter = immutableMarker
        · simp only [marked, immutableMarker_ne_nil, if_true, if_false,
            Option.some.injEq] at read
          rw [← read, print, letters, ← marked]
          exact split
        · simp [ended, marked] at read

theorem parse?_eq_some_iff {text : List Char} {summary : Summary} :
    parse? text = some summary ↔ text = summary.print :=
  ⟨fun read => (print_of_parse? read).symm,
    fun same => same ▸ parse?_print summary⟩

end Summary

def isSummary (text : List Char) : Bool :=
  (Summary.parse? text).isSome

end ClassTaint
