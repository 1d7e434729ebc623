import ClassTaint.Yaml.Fault
import ClassTaint.Yaml.Gap

namespace ClassTaint.Yaml

/-! Block scalars: indented lines behind a header, kept as they are or folded. -/

/-- What becomes of the line breaks at the end: only the last one of the text is
kept, or none, or all. -/
inductive Chomping
  | clip
  | strip
  | keep
  deriving DecidableEq, Repr

/-- The end of a line on which only a comment may follow, and its break. -/
def ignoredLine (text : List Char) : Except Fault (List Char) :=
  let rest := text.dropWhile (· == ' ')
  let rest :=
    if rest.head? = some '#' then rest.dropWhile (!isBreak ·) else rest
  match rest with
  | [] => .ok []
  | character :: rest =>
      if isBreak character then .ok rest else .error .malformed

def chomping? : Char → Option Chomping
  | '+' => some .keep
  | '-' => some .strip
  | _ => none

/-- A digit names the indentation; zero is none. -/
def indentDigit (text : List Char) : Except Fault (Option Nat × List Char) :=
  match text with
  | '0' :: _ => .error .malformed
  | digit :: rest =>
      if digit.isDigit then
        .ok (some (digit.toNat - 0x30), rest)
      else
        .ok (none, text)
  | [] => .ok (none, text)

def chompingMark (text : List Char) : Chomping × List Char :=
  match text with
  | [] => (.clip, text)
  | mark :: rest =>
      match chomping? mark with
      | some chomping => (chomping, rest)
      | none => (.clip, text)

/-- The marks of a header, in either order. -/
def blockMarks (text : List Char) :
    Except Fault (Chomping × Option Nat × List Char) :=
  match chompingMark text with
  | (.clip, text) => do
      let (indent, rest) ← indentDigit text
      let (chomping, rest) :=
        match indent with
        | none => (.clip, rest)
        | some _ => chompingMark rest
      pure (chomping, indent, rest)
  | (chomping, rest) => do
      let (indent, rest) ← indentDigit rest
      pure (chomping, indent, rest)

/-- The breaks of the empty lines ahead, the column of the first place behind
them that is not indentation, and the text from there. -/
def emptyLines (indent : Nat) :
    Nat → List Char → List Char × Nat × List Char
  | column, [] => ([], column, [])
  | column, character :: rest =>
      if character == ' ' && column < indent then
        emptyLines indent (column + 1) rest
      else if isBreak character then
        let (breaks, column, rest) := emptyLines indent 0 rest
        (breakValue character :: breaks, column, rest)
      else
        ([], column, character :: rest)

/-- The widest indentation of the empty lines ahead and of the line behind them. -/
def widestIndent : Nat → Nat → List Char → Nat
  | widest, _, [] => widest
  | widest, column, character :: rest =>
      if character == ' ' then
        widestIndent (max widest (column + 1)) (column + 1) rest
      else if isBreak character then
        widestIndent widest 0 rest
      else
        widest

def atSpace : List Char → Bool
  | [] => false
  | character :: _ => isSpace character

/-- The text of a block, the break behind its last line, and the empty lines
behind that. -/
structure BlockLines where
  text : List Char
  lastBreak : List Char
  breaks : List Char
  rest : List Char

/-- Reads lines of the given indentation. Between two lines that start with no
space, a folded block has a space for a break, and nothing if empty lines
follow. Each line takes at least its break, so the length of the text bounds
their number. -/
def BlockLines.readFrom (folded : Bool) (indent : Nat) :
    Nat → List Char → List Char → BlockLines
  | 0, breaks, text => ⟨[], [], breaks, text⟩
  | bound + 1, breaks, text =>
      let line := text.takeWhile (!isBreak ·)
      match text.dropWhile (!isBreak ·) with
      | [] => ⟨breaks ++ line, [], [], []⟩
      | character :: rest =>
          let (following, column, rest) := emptyLines indent 0 rest
          if column = indent ∧ rest ≠ [] then
            let joint :=
              if folded && breakValue character == '\n' && !atSpace text &&
                  !atSpace rest then
                if following.isEmpty then [' '] else []
              else
                [breakValue character]
            let lines := readFrom folded indent bound following rest
            { lines with text := breaks ++ line ++ joint ++ lines.text }
          else
            ⟨breaks ++ line, [breakValue character], following, rest⟩

/-- Reads the text behind the mark of a block, up to the first place that is not
part of it. -/
def readBlock (folded : Bool) (leastIndent : Nat) (text : List Char) :
    Except Fault (List Char × List Char) := do
  let (chomping, named, rest) ← blockMarks text
  if !atBreakOrBlank rest then
    throw .malformed
  let rest ← ignoredLine rest
  let indent :=
    match named with
    | some steps => leastIndent + steps - 1
    | none => max leastIndent (widestIndent 0 0 rest)
  let (breaks, column, start) := emptyLines indent 0 rest
  let lines :=
    if column = indent ∧ start ≠ [] then
      BlockLines.readFrom folded indent rest.length breaks start
    else
      ⟨[], [], breaks, start⟩
  let ending :=
    match chomping with
    | .clip => lines.lastBreak
    | .strip => []
    | .keep => lines.lastBreak ++ lines.breaks
  pure (lines.text ++ ending, lines.rest)

end ClassTaint.Yaml
