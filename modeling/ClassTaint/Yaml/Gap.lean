import ClassTaint.Yaml.Character

namespace ClassTaint.Yaml

/-! What stands between two words of a scalar, and what it counts for. -/

/-- Nothing, spaces within a line, or line breaks: a first one and the empty
lines after it. A first break that was escaped is left out. -/
inductive Gap
  | none
  | spaces (characters : List Char)
  | lines (first : Option Char) (more : List Char)
  deriving DecidableEq, Repr

namespace Gap

/-- A single line feed counts as a space and vanishes before empty lines. -/
def folded : Gap → List Char
  | none => []
  | spaces characters => characters
  | lines (some '\n') [] => [' ']
  | lines (some '\n') more => more
  | lines (some first) more => first :: more
  | lines Option.none more => more

/-- Spaces around line breaks do not count. -/
def addSpace (space : Char) : Gap → Gap
  | none => spaces [space]
  | spaces characters => spaces (characters ++ [space])
  | lines first more => lines first more

def addBreak (lineBreak : Char) : Gap → Gap
  | lines first more => lines first (more ++ [lineBreak])
  | _ => lines (some lineBreak) []

def isBroken : Gap → Bool
  | lines _ _ => true
  | _ => false

end Gap

end ClassTaint.Yaml
