import ClassTaint.Yaml.Fault
import ClassTaint.Yaml.Gap

namespace ClassTaint.Yaml

/-! Quoted scalars. Between single quotes a doubled quote stands for one; between
double quotes a backslash starts an escape. -/

/-- The characters that stand for another one behind a backslash. -/
def escapeTable : List (Char × Char) :=
  [('0', '\x00'), ('a', '\x07'), ('b', '\x08'), ('t', '\t'), ('\t', '\t'),
    ('n', '\n'), ('v', '\x0b'), ('f', '\x0c'), ('r', '\r'), ('e', '\x1b'),
    (' ', ' '), ('"', '"'), ('\\', '\\'), ('/', '/'), ('N', '\x85'),
    ('_', '\xa0'), ('L', '\u2028'), ('P', '\u2029')]

/-- The numbers of hexadecimal digits behind the three code escapes. -/
def codeEscapeTable : List (Char × Nat) :=
  [('x', 2), ('u', 4), ('U', 8)]

/-- The character with a code point that an escape names. The number is that of
the characters behind the escape. Half of a surrogate pair is no character here, so an
escape of one counts as malformed, though it could be kept and escaped again. -/
def characterOfCode (code left : Nat) : Except Fault Char :=
  if valid : code.isValidChar then
    .ok (Char.ofNatAux code valid)
  else if code < 0x110000 then
    .error .malformed
  else
    .error (.codePoint code left)

namespace QuotedScalar

/-- What the next character is part of: the text behind a gap, a doubled quote,
an escape, or the digits of an escape, of which some are left. -/
inductive Mode
  | content (gap : Gap)
  | doubled
  | escape
  | code (left value : Nat)
  deriving DecidableEq, Repr

/-- The scalar read so far and the number of characters it took. -/
abbrev Reading := Except Fault (List Char × Nat)

def extend (front : List Char) (reading : Reading) : Reading :=
  reading.map fun (text, length) => (front ++ text, length + 1)

/-- Reads up to and including the closing quote. -/
def readFrom (quote : Char) : Mode → List Char → Reading
  | _, [] => .error .malformed
  | .content gap, character :: rest =>
      if isSpace character then
        extend [] (readFrom quote (.content (gap.addSpace character)) rest)
      else if isBreak character then
        if atDocumentMark rest then
          .error .malformed
        else
          extend [] (readFrom quote
            (.content (gap.addBreak (breakValue character))) rest)
      else if character == quote then
        if quote == '\'' && rest.head? == some '\'' then
          extend gap.folded (readFrom quote .doubled rest)
        else
          .ok (gap.folded, 1)
      else if quote == '"' && character == '\\' then
        extend gap.folded (readFrom quote .escape rest)
      else
        extend (gap.folded ++ [character])
          (readFrom quote (.content .none) rest)
  | .doubled, character :: rest =>
      extend [character] (readFrom quote (.content .none) rest)
  | .escape, character :: rest =>
      match escapeTable.lookup character, codeEscapeTable.lookup character with
      | some meant, _ => extend [meant] (readFrom quote (.content .none) rest)
      | none, some digits => extend [] (readFrom quote (.code digits 0) rest)
      | none, none =>
          if isBreak character && !atDocumentMark rest then
            extend [] (readFrom quote (.content (.lines none [])) rest)
          else
            .error .malformed
  | .code left value, character :: rest =>
      match hexValue? character with
      | none => .error .malformed
      | some digit =>
          let value := value * 16 + digit
          if left ≤ 1 then
            match characterOfCode value rest.length with
            | .ok meant =>
                extend [meant] (readFrom quote (.content .none) rest)
            | .error fault => .error fault
          else
            extend [] (readFrom quote (.code (left - 1) value) rest)

def read (quote : Char) (text : List Char) : Reading :=
  readFrom quote (.content .none) text

end QuotedScalar

end ClassTaint.Yaml
