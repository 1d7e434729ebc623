import ClassTaint.Number.Layout
import ClassTaint.Text.Blank
import ClassTaint.Text.Digit
import ClassTaint.Yaml.Character
import ClassTaint.Yaml.Fault

namespace ClassTaint.Yaml

/-! The numbers that scalars stand for. Lines between digits do not count. -/

/-- What a character counts as in a numeral. The first 127 stand for themselves,
and of the others the blanks for a space and the digits of all scripts for the
usual ones. No other character is part of a numeral. -/
def numeralCharacter (character : Char) : Char :=
  if character.toNat < 127 then character
  else if Text.isBlank character then ' '
  else
    match Text.digitValue? character with
    | some digit => Char.ofNat (0x30 + digit)
    | none => '?'

def isNumeralSpace (character : Char) : Bool :=
  character == ' ' || (0x09 ≤ character.toNat && character.toNat ≤ 0x0D)

def numeralText (text : List Char) : List Char :=
  let characters := (text.map numeralCharacter).dropWhile isNumeralSpace
  (characters.reverse.dropWhile isNumeralSpace).reverse

def digitInBase? (base : Nat) (character : Char) : Option Nat :=
  (hexValue? character).filter (· < base)

def numeralValue? (base : Nat) (digits : List Char) : Option Nat :=
  if digits.isEmpty then
    none
  else
    digits.foldlM (fun value character =>
      (digitInBase? base character).map (base * value + ·)) 0

def baseLetter? : Nat → Option Char
  | 2 => some 'b'
  | 8 => some 'o'
  | 16 => some 'x'
  | _ => none

def dropBaseMark (base : Nat) (digits : List Char) : List Char :=
  match digits with
  | '0' :: letter :: rest =>
      if baseLetter? base = some letter.toLower then rest
      else '0' :: letter :: rest
  | _ => digits

/-- A sign in front of the text and whether it is a minus. -/
def takeSign (text : List Char) : Bool × List Char :=
  match text with
  | '+' :: rest => (false, rest)
  | '-' :: rest => (true, rest)
  | _ => (false, text)

def signed (negative : Bool) (number : Nat) : Int :=
  if negative then -(number : Int) else number

/-- A numeral with spaces around it, a sign and perhaps a mark of its base. -/
def numeral? (base : Nat) (text : List Char) : Option Int :=
  let (negative, digits) := takeSign (numeralText text)
  let digits := dropBaseMark base digits
  if base = 10 ∧ Number.longestNumeral < digits.length then
    none
  else
    (numeralValue? base digits).map (signed negative)

def splitColons : List Char → List (List Char)
  | [] => [[]]
  | ':' :: rest => [] :: splitColons rest
  | character :: rest =>
      match splitColons rest with
      | [] => [[character]]
      | part :: parts => (character :: part) :: parts

def orScalarFault (value : Option α) : Except Fault α :=
  match value with
  | some value => .ok value
  | none => .error .scalarValue

/-- Parts between colons are places of base sixty. -/
def sixtiesInteger? (text : List Char) : Option Int :=
  (splitColons text).foldlM (fun value part =>
    (numeral? 10 part).map (60 * value + ·)) 0

def unsignedInteger (text : List Char) : Except Fault Int :=
  match text with
  | [] => .error .emptyNumber
  | ['0'] => .ok 0
  | '0' :: 'b' :: digits => orScalarFault (numeral? 2 digits)
  | '0' :: 'x' :: digits => orScalarFault (numeral? 16 digits)
  | '0' :: digits => orScalarFault (numeral? 8 ('0' :: digits))
  | digits =>
      if digits.contains ':' then
        orScalarFault (sixtiesInteger? digits)
      else
        orScalarFault (numeral? 10 digits)

def readInteger (text : List Char) : Except Fault Int := do
  let (negative, digits) := takeSign (text.filter (· != '_'))
  let number ← unsignedInteger digits
  pure (if negative then -number else number)

def infinity : Float := 1.0 / 0.0

def undefinedNumber : Float := 0.0 / 0.0

/-- The float nearest to `digits * 10 ^ exponent`. Values far out of range are not
written out. -/
def nearestFloat (digits : Nat) (exponent : Int) : Float :=
  let size := ((Nat.toDigits 10 digits).length : Int) + exponent
  if digits = 0 ∨ size < -400 then 0.0
  else if 400 < size then infinity
  else Float.ofScientific digits (exponent < 0) exponent.natAbs

def exponentValue? (text : List Char) : Option Int :=
  match text with
  | [] => some 0
  | mark :: rest =>
      if mark.toLower = 'e' then
        let (negative, digits) := takeSign rest
        (numeralValue? 10 digits).map (signed negative)
      else
        none

def decimalFloat? (text : List Char) : Option Float := do
  let whole := text.takeWhile Char.isDigit
  let (fraction, rest) :=
    match text.dropWhile Char.isDigit with
    | '.' :: rest => (rest.takeWhile Char.isDigit, rest.dropWhile Char.isDigit)
    | rest => ([], rest)
  let digits ← numeralValue? 10 (whole ++ fraction)
  let exponent ← exponentValue? rest
  pure (nearestFloat digits (exponent - fraction.length))

/-- A decimal with spaces around it and a sign, or a word for a value that no
decimal has. -/
def float? (text : List Char) : Option Float :=
  let (negative, digits) := takeSign (numeralText text)
  let lower := String.ofList (digits.map Char.toLower)
  let magnitude :=
    if lower == "inf" || lower == "infinity" then some infinity
    else if lower == "nan" then some undefinedNumber
    else decimalFloat? digits
  magnitude.map fun value => if negative then -value else value

/-- Adds up places of base sixty, the last one first. No place may be out of the
range of floats, even if nothing stands there. -/
def addSixties : Float → Nat → List Float → Except Fault Float
  | value, _, [] => .ok value
  | value, base, part :: rest =>
      let place := nearestFloat base 0
      if place.isInf then .error .outOfRange
      else addSixties (value + part * place) (base * 60) rest

def sixtiesFloat (text : List Char) : Except Fault Float := do
  let parts ← orScalarFault ((splitColons text).mapM float?)
  addSixties 0.0 1 parts.reverse

/-- The float that a text stands for. The one word for what is no number stands
for none. -/
def readFloat (text : List Char) : Except Fault (Option Float) := do
  let text := (text.filter (· != '_')).map Char.toLower
  if text.isEmpty then
    throw .emptyNumber
  let (negative, digits) := takeSign text
  let word := String.ofList digits
  if word == ".inf" then
    pure (some (if negative then -infinity else infinity))
  else if word == ".nan" then
    pure none
  else
    let magnitude ←
      if digits.contains ':' then sixtiesFloat digits
      else orScalarFault (float? digits)
    pure (some (if negative then -magnitude else magnitude))

end ClassTaint.Yaml
