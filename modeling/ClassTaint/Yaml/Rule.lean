import ClassTaint.Yaml.Scalar.Timestamp
import ClassTaint.Yaml.Tag

namespace ClassTaint.Yaml

/-! What an untagged plain scalar is. Rules are asked in order, each only about
texts that start with one of its letters, and a text that none covers is a text. -/

structure Rule where
  tag : Tag
  starts : List Char
  /-- Whether the rule is also asked about the empty text. -/
  coversEmpty : Bool
  holds : List Char → Bool

/-- A line feed at the end of a text is overlooked. -/
def Rule.covers (rule : Rule) (text : List Char) : Bool :=
  let asked :=
    match text with
    | [] => rule.coversEmpty
    | first :: _ => rule.starts.contains first
  asked && (rule.holds text ||
    text.getLast? == some '\n' && rule.holds text.dropLast)

def isWordOf (words : List String) (text : List Char) : Bool :=
  words.any fun word => word.toList == text

def truthWords : List String :=
  ["yes", "Yes", "YES", "no", "No", "NO", "true", "True", "TRUE", "false",
    "False", "FALSE", "on", "On", "ON", "off", "Off", "OFF"]

def nullWords : List String :=
  ["~", "null", "Null", "NULL", ""]

def dropSign (text : List Char) : List Char :=
  match text with
  | '+' :: rest => rest
  | '-' :: rest => rest
  | _ => text

def isDigitOrLine (character : Char) : Bool :=
  character.isDigit || character == '_'

def startsWithDigit : List Char → Bool
  | [] => false
  | character :: _ => character.isDigit

/-- An exponent has a sign. -/
def isExponentOrEmpty (text : List Char) : Bool :=
  match text with
  | [] => true
  | mark :: sign :: digits =>
      (mark == 'e' || mark == 'E') && (sign == '+' || sign == '-') &&
        !digits.isEmpty && digits.all Char.isDigit
  | _ => false

/-- Drops as many colons as are followed by a number below sixty. -/
def dropSixties : List Char → List Char
  | ':' :: tens :: ones :: rest =>
      if '0' ≤ tens ∧ tens ≤ '5' ∧ ones.isDigit then dropSixties rest
      else if tens.isDigit then dropSixties (ones :: rest)
      else ':' :: tens :: ones :: rest
  | [':', ones] => if ones.isDigit then [] else [':', ones]
  | text => text

def isPointNumber (text : List Char) : Bool :=
  startsWithDigit text &&
    match text.dropWhile isDigitOrLine with
    | '.' :: rest => isExponentOrEmpty (rest.dropWhile isDigitOrLine)
    | _ => false

def isFraction (text : List Char) : Bool :=
  match text with
  | '.' :: rest =>
      startsWithDigit rest &&
        isExponentOrEmpty (rest.dropWhile isDigitOrLine)
  | _ => false

/-- Sixties behind a number, with a point at the end. -/
def isSixtiesNumber (text : List Char) : Bool :=
  let sixties := text.dropWhile isDigitOrLine
  startsWithDigit text && sixties.head? == some ':' &&
    match dropSixties sixties with
    | '.' :: rest => rest.all isDigitOrLine
    | _ => false

def isFloat (text : List Char) : Bool :=
  isPointNumber (dropSign text) || isFraction text ||
    isSixtiesNumber (dropSign text) ||
    isWordOf [".inf", ".Inf", ".INF"] (dropSign text) ||
    isWordOf [".nan", ".NaN", ".NAN"] text

def isHexOrLine (character : Char) : Bool :=
  (hexValue? character).isSome || character == '_'

/-- Numbers to the bases two, eight, ten, sixteen and sixty. -/
def isInteger (text : List Char) : Bool :=
  match dropSign text with
  | '0' :: 'b' :: digits =>
      !digits.isEmpty && digits.all fun digit =>
        digit == '0' || digit == '1' || digit == '_'
  | '0' :: 'x' :: digits => !digits.isEmpty && digits.all isHexOrLine
  | '0' :: digits =>
      digits.all fun digit =>
        '0' ≤ digit && digit ≤ '7' || digit == '_'
  | digits =>
      startsWithDigit digits &&
        (dropSixties (digits.dropWhile isDigitOrLine)).isEmpty

def isTimestamp (text : List Char) : Bool :=
  isFullDate text ||
    match readCalendar text with
    | some (.moment _) => true
    | _ => false

def digitLetters : List Char := "0123456789".toList

def truthRule : Rule :=
  ⟨.bool, "yYnNtTfFoO".toList, false, isWordOf truthWords⟩

def floatRule : Rule :=
  ⟨.float, '-' :: '+' :: '.' :: digitLetters, false, isFloat⟩

def integerRule : Rule :=
  ⟨.integer, '-' :: '+' :: digitLetters, false, isInteger⟩

def mergeRule : Rule :=
  ⟨.merge, ['<'], false, isWordOf ["<<"]⟩

def nullRule : Rule :=
  ⟨.null, ['~', 'n', 'N'], true, isWordOf nullWords⟩

def timestampRule : Rule :=
  ⟨.timestamp, digitLetters, false, isTimestamp⟩

def valueRule : Rule :=
  ⟨.value, ['='], false, isWordOf ["="]⟩

/-- Lone marks are reserved for the notation itself. -/
def reservedRule : Rule :=
  ⟨.other (standardTagStart ++ "yaml"), ['!', '&', '*'], false,
    isWordOf ["!", "&", "*"]⟩

def standardRules : List Rule :=
  [truthRule, floatRule, integerRule, mergeRule, nullRule, timestampRule,
    valueRule, reservedRule]

/-- The standard rules without those for null and for truth values. -/
def reducedRules : List Rule :=
  standardRules.filter fun rule => rule.tag ≠ .null ∧ rule.tag ≠ .bool

def resolve (rules : List Rule) (text : List Char) : Tag :=
  match rules.find? (·.covers text) with
  | some rule => rule.tag
  | none => .text

end ClassTaint.Yaml
