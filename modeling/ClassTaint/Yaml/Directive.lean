import ClassTaint.Number.Layout
import ClassTaint.Yaml.Scalar.Block
import ClassTaint.Yaml.Tag

namespace ClassTaint.Yaml

/-! Directives: lines before a document that say how it is to be read. -/

inductive Directive
  /-- The version of the notation, of which the first number counts. -/
  | version (major : Nat)
  | handle (name start : String)
  | reserved
  deriving DecidableEq, Repr

def skipSpaces (text : List Char) : List Char :=
  text.dropWhile (· == ' ')

/-- Reads at least one digit, up to the character behind the last one. -/
def readNatural (text : List Char) : Except Fault (Nat × List Char) :=
  let digits := text.takeWhile Char.isDigit
  let rest := text.dropWhile Char.isDigit
  if digits.isEmpty then
    .error .malformed
  else if Number.longestNumeral < digits.length then
    .error (.longVersion (rest.length - 1))
  else
    .ok (digitsValue digits, rest)

def readVersion (text : List Char) : Except Fault (Directive × List Char) := do
  let (major, rest) ← readNatural (skipSpaces text)
  match rest with
  | '.' :: rest => do
      let (_, rest) ← readNatural rest
      if atBreakOrBlank rest then
        pure (.version major, rest)
      else
        throw .malformed
  | _ => throw .malformed

def readHandleDirective (text : List Char) :
    Except Fault (Directive × List Char) := do
  let (handle, rest) ← readHandle (skipSpaces text)
  match rest with
  | ' ' :: _ => do
      let (start, rest) ← readUri (skipSpaces rest)
      if atBreakOrBlank rest then
        pure (.handle (String.ofList handle) (String.ofList start), rest)
      else
        throw .malformed
  | _ => throw .malformed

def readDirective (text : List Char) :
    Except Fault (Directive × List Char) := do
  let name := text.takeWhile isNameLetter
  let rest := text.dropWhile isNameLetter
  if name.isEmpty || !atBreakOrBlank rest then
    throw .malformed
  let (directive, rest) ←
    if name = ['Y', 'A', 'M', 'L'] then readVersion rest
    else if name = ['T', 'A', 'G'] then readHandleDirective rest
    else pure (.reserved, rest.dropWhile (!isBreak ·))
  let rest ← ignoredLine rest
  pure (directive, rest)

end ClassTaint.Yaml
