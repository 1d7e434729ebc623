import ClassTaint.Text.Printable

namespace ClassTaint.Text

/-! Quoted texts. A quoted text stands between two equal quotes and holds
printable characters only: everything else is written as an escape. -/

def hexDigit (digit : Nat) : Char :=
  if digit < 10 then Char.ofNat (0x30 + digit) else Char.ofNat (0x57 + digit)

/-- A number in as many hexadecimal digits as asked for, the lowest ones kept. -/
def hexadecimal : Nat → Nat → List Char
  | 0, _ => []
  | width + 1, number =>
      hexadecimal width (number / 16) ++ [hexDigit (number % 16)]

/-- The escape of a character by its code point, in the shortest of the three
forms that holds it. -/
def codeEscape (character : Char) : List Char :=
  let code := character.toNat
  if code < 0x100 then '\\' :: 'x' :: hexadecimal 2 code
  else if code < 0x10000 then '\\' :: 'u' :: hexadecimal 4 code
  else '\\' :: 'U' :: hexadecimal 8 code

def quotedCharacter (quote character : Char) : List Char :=
  if character = '\\' || character = quote then ['\\', character]
  else if character = '\t' then ['\\', 't']
  else if character = '\n' then ['\\', 'n']
  else if character = '\r' then ['\\', 'r']
  else if isPrintable character then [character]
  else codeEscape character

/-- Double quotes are used only where they save escaping a single quote. -/
def quoteFor (text : List Char) : Char :=
  if text.contains '\'' && !text.contains '"' then '"' else '\''

def quotedCharacters (text : List Char) : List Char :=
  let quote := quoteFor text
  quote :: text.flatMap (quotedCharacter quote) ++ [quote]

def quoted (text : String) : String :=
  String.ofList (quotedCharacters text.toList)

end ClassTaint.Text
