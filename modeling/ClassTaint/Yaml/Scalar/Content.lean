import ClassTaint.Value
import ClassTaint.Yaml.Scalar.Number
import ClassTaint.Yaml.Scalar.Timestamp
import ClassTaint.Yaml.Tag

namespace ClassTaint.Yaml

/-! The value of a scalar, by its tag. -/

def truthOfWord? (text : List Char) : Option Bool :=
  [("yes", true), ("no", false), ("true", true), ("false", false), ("on", true),
    ("off", false)].lookup (String.ofList (text.map Char.toLower))

/-- A line feed at the end of a date is overlooked. -/
def calendarText (text : List Char) : List Char :=
  if text.getLast? = some '\n' then text.dropLast else text

def readTimestamp (text : List Char) : Except Fault Value :=
  match readCalendar (calendarText text) with
  | none => .error .dateForm
  | some (.day date) =>
      if date.isValid then .ok (.date date) else .error .scalarValue
  | some (.moment timestamp) =>
      if timestamp.isValid then .ok (.timestamp timestamp)
      else .error .scalarValue

/-- What is no number is told apart by its place, unless it is written so. -/
def floatValue (place : Nat) : Option Float → Value
  | none => .undefined none
  | some number =>
      if number.isNaN then .undefined (some place) else .float number

/-- Whether a tag gives scalars a value. Those for collections do not, nor do
those without a meaning. -/
def Tag.hasScalars : Tag → Bool
  | .null | .bool | .integer | .float | .timestamp | .text => true
  | _ => false

def scalarValue (tag : Tag) (place : Nat) (text : List Char) :
    Except Fault Value :=
  match tag with
  | .null => .ok .null
  | .bool =>
      match truthOfWord? text with
      | some truth => .ok (.bool truth)
      | none => .error .truthWord
  | .integer => (readInteger text).map .integer
  | .float => (readFloat text).map (floatValue place)
  | .timestamp => readTimestamp text
  | .text => .ok (.text (String.ofList text))
  | _ => .error .malformed

end ClassTaint.Yaml
