namespace ClassTaint.Yaml

/-- Why a YAML text gives no value. The first two faults are met while characters
are read, and say how many behind them are not looked at. -/
inductive Fault
  /-- An escape names a code point beyond the last one. -/
  | codePoint (code left : Nat)
  /-- A number in a version is too long to be read. -/
  | longVersion (left : Nat)
  /-- A rule of the notation, of its tags or of its references is broken. -/
  | malformed
  /-- Nodes are nested more deeply than they are followed. -/
  | tooDeep
  /-- The text of a number or of a date stands for none. -/
  | scalarValue
  /-- The text of a number has no digits at all. -/
  | emptyNumber
  /-- A number has a place that is out of the range of floats. -/
  | outOfRange
  /-- A text tagged as a truth value is none of the words for one. -/
  | truthWord
  /-- A text tagged as a date does not look like one. -/
  | dateForm
  /-- A mapping is tagged as a date. -/
  | dateContent
  deriving DecidableEq, Repr

/-- The number of characters that were not looked at when a fault was met, if it
was met before all of them were. -/
def Fault.left? : Fault → Option Nat
  | .codePoint _ left => some left
  | .longVersion left => some left
  | _ => none

end ClassTaint.Yaml
