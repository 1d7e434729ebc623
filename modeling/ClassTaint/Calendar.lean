import ClassTaint.Number.Layout

namespace ClassTaint

/-! Days and moments of the Gregorian calendar, from the year one to the year
9999. -/

structure Date where
  year : Nat
  month : Nat
  day : Nat
  deriving DecidableEq, Repr

namespace Date

def isLeapYear (year : Nat) : Bool :=
  year % 4 == 0 && (year % 100 != 0 || year % 400 == 0)

def daysInMonth (year month : Nat) : Nat :=
  if month = 2 then
    if isLeapYear year then 29 else 28
  else if month = 4 ∨ month = 6 ∨ month = 9 ∨ month = 11 then 30
  else 31

/-- The number of a day, counted from the first day of the year one. -/
def number (date : Date) : Nat :=
  let years := date.year - 1
  let months := (List.range (date.month - 1)).foldl
    (fun days month => days + daysInMonth date.year (month + 1)) 0
  365 * years + years / 4 - years / 100 + years / 400 + months + date.day

def isValid (date : Date) : Bool :=
  1 ≤ date.year && date.year ≤ 9999 && 1 ≤ date.month && date.month ≤ 12 &&
    1 ≤ date.day && date.day ≤ daysInMonth date.year date.month

end Date

/-- A moment on a day. The offset from universal time is in minutes, for moments
that name one. -/
structure Timestamp where
  date : Date
  hour : Nat
  minute : Nat
  second : Nat
  microsecond : Nat
  offset : Option Int
  deriving DecidableEq, Repr

def Timestamp.isValid (moment : Timestamp) : Bool :=
  moment.date.isValid && moment.hour < 24 && moment.minute < 60 &&
    moment.second < 60 &&
    moment.offset.all fun minutes => minutes.natAbs < 24 * 60

namespace Timestamp

/-- The microseconds up to a moment, in universal time if it names an offset. -/
def instant (moment : Timestamp) : Int :=
  let minutes : Int := (moment.date.number * 24 + moment.hour) * 60 + moment.minute
  (minutes - moment.offset.getD 0) * 60000000 + moment.second * 1000000 +
    moment.microsecond

/-- Moments that name an offset are the same if they are one instant, and others if
they have the same fields. -/
def isSame (left right : Timestamp) : Bool :=
  match left.offset, right.offset with
  | some _, some _ => left.instant = right.instant
  | none, none => left = right
  | _, _ => false

/-- The calls that writing the offset takes. One that is not zero is written by way of a
span of time. -/
def offsetCalls (moment : Timestamp) : Nat :=
  match moment.offset with
  | none => 0
  | some minutes => if minutes = 0 then 1 else 2

end Timestamp

open Number (naturalText)

def commaSeparated : List String → String
  | [] => ""
  | [last] => last
  | first :: rest => first ++ ", " ++ commaSeparated rest

def Date.fields (date : Date) : List String :=
  [date.year, date.month, date.day].map naturalText

def Date.render (date : Date) : String :=
  "datetime.date(" ++ commaSeparated date.fields ++ ")"

/-- A negative offset is written as whole days back and seconds forward. -/
def renderOffset (minutes : Int) : String :=
  if minutes = 0 then
    "datetime.timezone.utc"
  else
    let days := if minutes < 0 then "days=-1, " else ""
    "datetime.timezone(datetime.timedelta(" ++ days ++ "seconds=" ++
      naturalText ((minutes * 60) % 86400).toNat ++ "))"

/-- Seconds and microseconds are left out where they are zero. -/
def Timestamp.render (moment : Timestamp) : String :=
  let seconds :=
    if moment.microsecond ≠ 0 then [moment.second, moment.microsecond]
    else if moment.second ≠ 0 then [moment.second]
    else []
  let zone := moment.offset.toList.map fun minutes =>
    "tzinfo=" ++ renderOffset minutes
  "datetime.datetime(" ++
    commaSeparated (moment.date.fields ++
      ([moment.hour, moment.minute] ++ seconds).map naturalText ++ zone) ++ ")"

end ClassTaint
