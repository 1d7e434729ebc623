import ClassTaint.Calendar
import ClassTaint.Nesting
import ClassTaint.Table
import ClassTaint.Text.Quoted

namespace ClassTaint

/-! The values that a document can hold. -/

/-- What a collection is when it is met inside itself. -/
inductive Enclosing
  | list
  | mapping
  deriving DecidableEq, Repr

/-- Mappings keep the order of their pairs, and the members of a set stand in the order
in which they are gone through. A collection inside itself ends the value there. -/
inductive Value
  | null
  | bool (truth : Bool)
  | integer (number : Int)
  | float (number : Float)
  /-- What is no number, though it counts as a float. Several of them differ if
  they come from different places; one that is written as such has none. -/
  | undefined (origin : Option Nat)
  | text (content : String)
  | date (day : Date)
  | timestamp (moment : Timestamp)
  | list (items : List Value)
  | mapping (pairs : List (Value × Value))
  | set (members : List Value)
  | enclosing (collection : Enclosing)
  deriving Inhabited

namespace Value

def kindName : Value → String
  | null => "NoneType"
  | bool _ => "bool"
  | integer _ => "int"
  | float _ => "float"
  | undefined _ => "float"
  | text _ => "str"
  | date _ => "datetime.date"
  | timestamp _ => "datetime.datetime"
  | list _ => "list"
  | mapping _ => "dict"
  | set _ => "set"
  | enclosing .list => "list"
  | enclosing .mapping => "dict"

/-- A number as far as comparison sees it: whole, or by the bits of its float. -/
inductive Magnitude
  | whole (number : Int)
  | broken (bits : UInt64)
  deriving DecidableEq, Repr

def floatMagnitude (number : Float) : Magnitude :=
  let bits := number.toBits
  let binary := Number.Binary.ofBits bits
  let divisor := Nat.pow 2 (-binary.exponent).toNat
  let scaled := binary.significand * Nat.pow 2 binary.exponent.toNat
  if bits.toNat % Nat.pow 2 63 < 2047 * Nat.pow 2 52 ∧ scaled % divisor = 0 then
    let whole : Int := scaled / divisor
    .whole (if bits.toNat / Nat.pow 2 63 = 1 then -whole else whole)
  else
    .broken bits

/-- Truth values count as zero and one. -/
def magnitude? : Value → Option Magnitude
  | bool truth => some (.whole (if truth then 1 else 0))
  | integer number => some (.whole number)
  | float number => some (floatMagnitude number)
  | _ => none

/-- Numbers of one magnitude are one key, whatever their kind; collections are
no keys at all. -/
def sameKey : Value → Value → Bool
  | null, null => true
  | text left, text right => left == right
  | date left, date right => left == right
  | timestamp left, timestamp right => left.isSame right
  | undefined left, undefined right => left == right
  | left, right =>
      match left.magnitude?, right.magnitude? with
      | some first, some second => first == second
      | _, _ => false

instance : BEq Value := ⟨sameKey⟩

/-- The mapping of the given pairs, in which later values replace earlier ones. -/
def ofPairs (pairs : List (Value × Value)) : Value :=
  mapping (Table.ofEntries pairs)

/-- Floats are written out from the ten-thousandths up to sixteen digits. -/
def floatLayout : Number.Layout :=
  ⟨-4, 16, "inf", "nan"⟩

mutual

def render : Value → String
  | null => "None"
  | bool truth => if truth then "True" else "False"
  | integer number => Number.integerText number
  | float number => floatLayout.floatText number
  | undefined _ => floatLayout.undefined
  | text content => Text.quoted content
  | date day => day.render
  | timestamp moment => moment.render
  | list items => "[" ++ renderItems items ++ "]"
  | mapping pairs => "\x7b" ++ renderPairs pairs ++ "\x7d"
  | set [] => "set()"
  | set (member :: members) =>
      "\x7b" ++ renderItems (member :: members) ++ "\x7d"
  | enclosing .list => "[...]"
  | enclosing .mapping => "\x7b...\x7d"

def renderItems : List Value → String
  | [] => ""
  | [last] => last.render
  | first :: rest => first.render ++ ", " ++ renderItems rest

def renderPairs : List (Value × Value) → String
  | [] => ""
  | [(key, value)] => key.render ++ ": " ++ value.render
  | (key, value) :: rest =>
      key.render ++ ": " ++ value.render ++ ", " ++ renderPairs rest

end

end Value

/-- Why the text of a value cannot be written. -/
inductive WritingFault
  /-- An integer is too long. -/
  | longNumber
  /-- A value is nested more deeply than it can be followed. -/
  | tooDeep
  deriving DecidableEq, Repr

namespace Value

/-- The calls that are open for the text of a value before those of its parts. A set is
written by way of the list of its members, and a moment by way of its offset. -/
def ownCalls : Value → Nat
  | set (_ :: _) => 2
  | timestamp moment => 1 + moment.offsetCalls
  | _ => 1

mutual

/-- The first fault in writing a value while so many calls are left. -/
def faultWithin? (calls : Nat) (value : Value) : Option WritingFault :=
  if calls < value.ownCalls then
    some .tooDeep
  else
    let left := calls - value.ownCalls
    match value with
    | integer number =>
        if Number.isWritable number then none else some .longNumber
    | list items => itemsFaultWithin? left items
    | mapping pairs => pairsFaultWithin? left pairs
    | set members => itemsFaultWithin? left members
    | _ => none

def itemsFaultWithin? : Nat → List Value → Option WritingFault
  | _, [] => none
  | calls, first :: rest =>
      match first.faultWithin? calls with
      | some fault => some fault
      | none => itemsFaultWithin? calls rest

def pairsFaultWithin? : Nat → List (Value × Value) → Option WritingFault
  | _, [] => none
  | calls, (key, value) :: rest =>
      match key.faultWithin? calls with
      | some fault => some fault
      | none =>
          match value.faultWithin? calls with
          | some fault => some fault
          | none => pairsFaultWithin? calls rest

end

def writingFault? (value : Value) : Option WritingFault :=
  value.faultWithin? deepestWriting

@[simp] theorem writingFault?_null : null.writingFault? = none := rfl

@[simp] theorem writingFault?_text (content : String) :
    (text content).writingFault? = none := rfl

@[simp] theorem writingFault?_integer (number : Int) :
    (integer number).writingFault? =
      if Number.isWritable number then none else some .longNumber := by
  have enough : ¬ deepestWriting < (integer number).ownCalls :=
    show ¬ deepestWriting < 1 by decide
  rw [writingFault?, faultWithin?, if_neg enough]

/-- Whether the text of a value can be written, which takes integers that are not too
long and collections that are not too deep. -/
def isWritable (value : Value) : Bool :=
  value.writingFault?.isNone

end Value

end ClassTaint
