namespace ClassTaint.Number

/-! Shortest decimals. A positive binary fraction stands for all reals that
round to it, and its shortest decimal is one with the fewest digits among them. -/

/-- The value `significand * 2 ^ exponent`. The gap below is narrow where the
next smaller value is nearer than the next larger one. -/
structure Binary where
  significand : Nat
  exponent : Int
  narrowBelow : Bool
  deriving DecidableEq, Repr

/-- The value `digits * 10 ^ exponent`. -/
structure Decimal where
  digits : Nat
  exponent : Int
  deriving DecidableEq, Repr

/-- Reads the fields of a finite 64-bit value, its sign left out. -/
def Binary.ofBits (bits : UInt64) : Binary :=
  let field : Nat := (bits.toNat / Nat.pow 2 52) % Nat.pow 2 11
  let fraction : Nat := bits.toNat % Nat.pow 2 52
  if field = 0 then
    ⟨fraction, -1074, false⟩
  else
    ⟨Nat.pow 2 52 + fraction, (field : Int) - 1075, fraction == 0 && 1 < field⟩

/-- The order of a decimal and `significand * 2 ^ exponent`. -/
def Decimal.compareBinary (decimal : Decimal) (significand : Nat)
    (exponent : Int) : Ordering :=
  compare
    (decimal.digits * Nat.pow 10 decimal.exponent.toNat *
      Nat.pow 2 (-exponent).toNat)
    (significand * Nat.pow 2 exponent.toNat *
      Nat.pow 10 (-decimal.exponent).toNat)

/-- The reals that round to a value reach halfway to its neighbours. The ends
belong to them when the significand is even. -/
def Binary.readsBack (binary : Binary) (decimal : Decimal) : Bool :=
  let lower := 4 * binary.significand - (if binary.narrowBelow then 1 else 2)
  let upper := 4 * binary.significand + 2
  let ends := binary.significand % 2 == 0
  let low := decimal.compareBinary lower (binary.exponent - 2)
  let high := decimal.compareBinary upper (binary.exponent - 2)
  (low == .gt || ends && low == .eq) && (high == .lt || ends && high == .eq)

/-- The least exponent among those tried, from the given one on, whose power of
ten exceeds the value. -/
def Binary.scaleFrom (binary : Binary) : Nat → Int → Int
  | 0, scale => scale
  | steps + 1, scale =>
      if (Decimal.mk 1 scale).compareBinary binary.significand
          binary.exponent = .gt then
        scale
      else
        binary.scaleFrom steps (scale + 1)

/-- The exponent of the first power of ten above the value. The binary
logarithm, times three tenths, is a start from below. -/
def Binary.scale (binary : Binary) : Int :=
  let logarithm := (binary.significand.log2 : Int) + binary.exponent
  binary.scaleFrom 400 (Int.fdiv (logarithm * 30103) 100000 - 1)

/-- The largest multiple of a power of ten not above the value. -/
def Binary.floorOn (binary : Binary) (exponent : Int) : Decimal :=
  ⟨binary.significand * Nat.pow 2 binary.exponent.toNat *
      Nat.pow 10 (-exponent).toNat /
      (Nat.pow 2 (-binary.exponent).toNat * Nat.pow 10 exponent.toNat), exponent⟩

/-- Of the two neighbours on a decimal grid that read back, the nearer one, and
the even one in the middle. -/
def Binary.neighbour? (binary : Binary) (exponent : Int) : Option Decimal :=
  let below := binary.floorOn exponent
  let above : Decimal := ⟨below.digits + 1, exponent⟩
  match binary.readsBack below, binary.readsBack above with
  | false, false => none
  | true, false => some below
  | false, true => some above
  | true, true =>
      let middle : Decimal := ⟨5 * (2 * below.digits + 1), exponent - 1⟩
      match middle.compareBinary binary.significand binary.exponent with
      | .gt => some below
      | .lt => some above
      | .eq => some (if below.digits % 2 = 0 then below else above)

def Decimal.withoutZeros : Nat → Decimal → Decimal
  | 0, decimal => decimal
  | steps + 1, decimal =>
      if decimal.digits ≠ 0 ∧ decimal.digits % 10 = 0 then
        withoutZeros steps ⟨decimal.digits / 10, decimal.exponent + 1⟩
      else
        decimal

def Binary.exact (binary : Binary) : Decimal :=
  ⟨binary.significand * Nat.pow 2 binary.exponent.toNat *
      Nat.pow 5 (-binary.exponent).toNat, min binary.exponent 0⟩

/-- Grids of one to seventeen digits are tried in turn. -/
def Binary.shortest (binary : Binary) : Decimal :=
  let scale := binary.scale
  let found := (List.range 17).findSome? fun count =>
    binary.neighbour? (scale - (count + 1 : Nat))
  (found.getD binary.exact).withoutZeros 400

end ClassTaint.Number
