import ClassTaint.Number.Shortest

namespace ClassTaint.Number

/-! How numbers are written. -/

def naturalText (number : Nat) : String :=
  String.ofList (Nat.toDigits 10 number)

def integerText : Int → String
  | .ofNat number => naturalText number
  | .negSucc number => "-" ++ naturalText (number + 1)

/-- The number of digits of the longest decimal numeral that is read or
written. -/
def longestNumeral : Nat := 4300

/-- The least number whose numeral is too long. -/
def leastUnwritable : Nat := Nat.pow 10 longestNumeral

def isWritable (number : Int) : Bool :=
  number.natAbs < leastUnwritable

theorem isWritable_ofNat (number : Nat) :
    isWritable (.ofNat number) = decide (number < leastUnwritable) := rfl

def twoDigitText (number : Nat) : String :=
  if number < 10 then "0" ++ naturalText number else naturalText number

/-- What a format decides: for which exponents of the leading digit the number
is written without one, and the texts of the values that are no numbers. -/
structure Layout where
  plainFrom : Int
  plainBelow : Int
  infinite : String
  undefined : String

def zeros (count : Nat) : String :=
  String.ofList (List.replicate count '0')

/-- The digits with a point before, inside or behind them. A whole number has
one zero behind its point. -/
def plainText (digits : List Char) (pointAt : Int) : String :=
  if pointAt ≤ 0 then
    "0." ++ zeros (-pointAt).toNat ++ String.ofList digits
  else if pointAt.toNat < digits.length then
    String.ofList (digits.take pointAt.toNat) ++ "." ++
      String.ofList (digits.drop pointAt.toNat)
  else
    String.ofList digits ++ zeros (pointAt.toNat - digits.length) ++ ".0"

/-- One digit before the point, and an exponent with its sign. -/
def scientificText (digits : List Char) (exponent : Int) : String :=
  let fraction :=
    match digits.drop 1 with
    | [] => ""
    | rest => "." ++ String.ofList rest
  let sign := if exponent < 0 then "-" else "+"
  String.ofList (digits.take 1) ++ fraction ++ "e" ++ sign ++
    twoDigitText exponent.natAbs

def Layout.decimalText (layout : Layout) (decimal : Decimal) : String :=
  let digits := Nat.toDigits 10 decimal.digits
  let pointAt := (digits.length : Int) + decimal.exponent
  if layout.plainFrom ≤ pointAt - 1 ∧ pointAt - 1 < layout.plainBelow then
    plainText digits pointAt
  else
    scientificText digits (pointAt - 1)

/-- The text of a 64-bit float: its sign, then its shortest decimal. -/
def Layout.floatText (layout : Layout) (number : Float) : String :=
  let bits := number.toBits
  let sign := if bits.toNat / Nat.pow 2 63 = 1 then "-" else ""
  let magnitude := bits.toNat % Nat.pow 2 63
  if magnitude = 0 then sign ++ "0.0"
  else if magnitude < 2047 * Nat.pow 2 52 then
    sign ++ layout.decimalText (Binary.ofBits bits).shortest
  else if magnitude = 2047 * Nat.pow 2 52 then sign ++ layout.infinite
  else layout.undefined

end ClassTaint.Number
