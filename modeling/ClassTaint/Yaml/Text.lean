import ClassTaint.Yaml.Document
import ClassTaint.Yaml.Node.Reader
import ClassTaint.Yaml.Token.Scanner

namespace ClassTaint.Yaml

/-! Reading a YAML text. -/

/-- Characters are checked in blocks of this length. -/
def blockLength : Nat := 4096

/-- The number of characters that are checked where some are looked at: those of
the first two blocks, and of every block that is reached. -/
def checkedLength (looked : Nat) : Nat :=
  blockLength * max 2 ((looked + blockLength - 1) / blockLength)

/-- The characters that are checked before the end of the tokens: all of them,
unless a fault is met earlier. -/
def checkedPart (text : List Char) (ending : Fault) : List Char :=
  match ending.left? with
  | some left => text.take (checkedLength (text.length - left))
  | none => text

/-- The value of the only document of a text, which is null where there is
none. -/
def read (rules : List Rule) (order : SetOrder) (text : String) :
    Except Fault Value := do
  let characters := normalLines text.toList
  let stream := tokensOf characters
  if !(checkedPart characters stream.ending).all isAllowed then
    throw .malformed
  match ← Document.ofTokens rules stream with
  | none => pure .null
  | some document => document.value order

end ClassTaint.Yaml
