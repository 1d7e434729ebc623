import ClassTaint.Calendar
import ClassTaint.Yaml.Character

namespace ClassTaint.Yaml

/-! Dates and moments as scalars write them: year, month and day, and then
perhaps a time of day, and behind that perhaps its offset from universal time. -/

def upToTwoDigits (text : List Char) : Option (Nat × List Char) :=
  match text with
  | first :: second :: rest =>
      if first.isDigit && second.isDigit then
        some (digitsValue [first, second], rest)
      else if first.isDigit then
        some (digitsValue [first], second :: rest)
      else
        none
  | [first] => if first.isDigit then some (digitsValue [first], []) else none
  | [] => none

def exactDigits (count : Nat) (text : List Char) : Option (Nat × List Char) :=
  let digits := text.take count
  if digits.length = count ∧ digits.all Char.isDigit then
    some (digitsValue digits, text.drop count)
  else
    none

def mark? (mark : Char) (text : List Char) : Option (List Char) :=
  match text with
  | [] => none
  | character :: rest => if character = mark then some rest else none

def readDate (text : List Char) : Option (Date × List Char) := do
  let (year, rest) ← exactDigits 4 text
  let rest ← mark? '-' rest
  let (month, rest) ← upToTwoDigits rest
  let rest ← mark? '-' rest
  let (day, rest) ← upToTwoDigits rest
  pure (⟨year, month, day⟩, rest)

/-- A letter or blanks between the day and the time. -/
def timeSeparator? (text : List Char) : Option (List Char) :=
  match text with
  | [] => none
  | character :: rest =>
      if character = 'T' ∨ character = 't' then some rest
      else if isSpace character then some (rest.dropWhile isSpace)
      else none

/-- The first six digits of a fraction count, in millionths. -/
def readFraction (text : List Char) : Nat × List Char :=
  match text with
  | '.' :: rest =>
      let digits := (rest.takeWhile Char.isDigit).take 6
      (digitsValue digits * Nat.pow 10 (6 - digits.length),
        rest.dropWhile Char.isDigit)
  | _ => (0, text)

/-- An offset in minutes: none is named by nothing, and zero by its letter. -/
def readOffset (text : List Char) : Option (Option Int) :=
  match text, text.dropWhile isSpace with
  | [], _ => some none
  | _, ['Z'] => some (some 0)
  | _, sign :: rest =>
      if sign = '+' ∨ sign = '-' then do
        let (hours, rest) ← upToTwoDigits rest
        let minutes ←
          match rest with
          | [] => some 0
          | ':' :: rest => do
              let (minutes, rest) ← exactDigits 2 rest
              if rest = [] then some minutes else none
          | _ => none
        let offset : Int := hours * 60 + minutes
        pure (some (if sign = '-' then -offset else offset))
      else
        none
  | _, [] => none

/-- A day alone, or a moment. -/
inductive CalendarScalar
  | day (date : Date)
  | moment (timestamp : Timestamp)
  deriving DecidableEq, Repr

def readCalendar (text : List Char) : Option CalendarScalar := do
  let (date, rest) ← readDate text
  if rest = [] then
    pure (.day date)
  else
    let rest ← timeSeparator? rest
    let (hour, rest) ← upToTwoDigits rest
    let rest ← mark? ':' rest
    let (minute, rest) ← exactDigits 2 rest
    let rest ← mark? ':' rest
    let (second, rest) ← exactDigits 2 rest
    let (microsecond, rest) := readFraction rest
    let offset ← readOffset rest
    pure (.moment ⟨date, hour, minute, second, microsecond, offset⟩)

/-- Untagged texts are dates only if month and day have two digits each. -/
def isFullDate (text : List Char) : Bool :=
  text.length == 10 && (readDate text).any fun (_, rest) => rest.isEmpty

end ClassTaint.Yaml
