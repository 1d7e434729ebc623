namespace ClassTaint.Yaml

/-! The characters of YAML text. -/

def isAllowed (character : Char) : Bool :=
  let code := character.toNat
  code == 0x09 || code == 0x0A || code == 0x0D || code == 0x85 ||
    (0x20 ≤ code && code ≤ 0x7E) || (0xA0 ≤ code && code ≤ 0xFFFD) ||
    0x10000 ≤ code

def isBreak (character : Char) : Bool :=
  character == '\n' || character == '\x85' || character == '\u2028' ||
    character == '\u2029'

/-- A next-line control counts as a line feed; the two separators are kept. -/
def breakValue (character : Char) : Char :=
  if character == '\x85' then '\n' else character

def isSpace (character : Char) : Bool :=
  character == ' ' || character == '\t'

/-- Whether a text is at its end or goes on with a space, a tab or a break. -/
def atGap : List Char → Bool
  | [] => true
  | character :: _ => isSpace character || isBreak character

/-- Like `atGap`, but a tab does not count. -/
def atBreakOrBlank : List Char → Bool
  | [] => true
  | character :: _ => character == ' ' || isBreak character

/-- Whether a line starts with one of the two document marks. -/
def atDocumentMark : List Char → Bool
  | '-' :: '-' :: '-' :: rest => atGap rest
  | '.' :: '.' :: '.' :: rest => atGap rest
  | _ => false

def isNameLetter (character : Char) : Bool :=
  character.isAlphanum || character == '-' || character == '_'

def digitsValue (digits : List Char) : Nat :=
  digits.foldl (fun value digit => 10 * value + (digit.toNat - 0x30)) 0

def hexValue? (character : Char) : Option Nat :=
  if character.isDigit then some (character.toNat - 0x30)
  else if 'a' ≤ character ∧ character ≤ 'f' then some (character.toNat - 0x57)
  else if 'A' ≤ character ∧ character ≤ 'F' then some (character.toNat - 0x37)
  else none

/-- Carriage returns, alone or before a line feed, are line feeds. -/
def normalLines : List Char → List Char
  | [] => []
  | '\r' :: '\n' :: rest => '\n' :: normalLines rest
  | '\r' :: rest => '\n' :: normalLines rest
  | character :: rest => character :: normalLines rest

end ClassTaint.Yaml
