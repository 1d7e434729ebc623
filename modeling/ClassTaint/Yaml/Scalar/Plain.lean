import ClassTaint.Yaml.Gap

namespace ClassTaint.Yaml

/-! Plain scalars: texts without quotes, which end where a mapping value, a
comment, a flow mark or a less indented line starts. -/

/-- A scalar as it was read, how many characters it took together with the gap
after it, and whether that gap holds a line break. -/
structure PlainScalar where
  text : List Char
  length : Nat
  broken : Bool
  deriving DecidableEq, Repr

def isFlowMark (character : Char) : Bool :=
  character == ',' || character == '[' || character == ']' ||
    character == '{' || character == '}'

def atFlowMark : List Char → Bool
  | [] => false
  | character :: _ => isFlowMark character

def stopsPlain (inFlow : Bool) : List Char → Bool
  | [] => true
  | character :: rest =>
      isSpace character || isBreak character ||
        character == ':' && (atGap rest || inFlow && atFlowMark rest) ||
        inFlow && (isFlowMark character || character == '?')

def columnAfter (column : Nat) (character : Char) : Nat :=
  if character == '\uFEFF' then column else column + 1

namespace PlainScalar

/-- The scalar with some text and one more character in front. -/
def extend (front : List Char) (scalar : PlainScalar) : PlainScalar :=
  ⟨front ++ scalar.text, scalar.length + 1, scalar.broken⟩

/-- Reads on behind a gap. In block context a line that starts left of the
indentation is not part of the scalar. -/
def readFrom (inFlow : Bool) (indent : Nat) :
    Gap → Nat → List Char → PlainScalar
  | gap, _, [] => ⟨[], 0, gap.isBroken⟩
  | gap, column, character :: rest =>
      if character == ' ' then
        (readFrom inFlow indent (gap.addSpace ' ') (column + 1) rest).extend []
      else if isBreak character then
        if atDocumentMark rest then
          ⟨[], 1, true⟩
        else
          (readFrom inFlow indent (gap.addBreak (breakValue character)) 0
            rest).extend []
      else if gap ≠ .none ∧ (character == '#' ∨ !inFlow ∧ column < indent) then
        ⟨[], 0, gap.isBroken⟩
      else if stopsPlain inFlow (character :: rest) then
        ⟨[], 0, gap.isBroken⟩
      else
        (readFrom inFlow indent .none (columnAfter column character)
          rest).extend (gap.folded ++ [character])

def read (inFlow : Bool) (indent column : Nat) (text : List Char) :
    PlainScalar :=
  readFrom inFlow indent .none column text

end PlainScalar

end ClassTaint.Yaml
