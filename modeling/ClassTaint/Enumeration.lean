import ClassTaint.Number.Layout
import ClassTaint.Text.Quoted

namespace ClassTaint

/-! Enumerations and their states. Members with one value are names of one
state, and the first of them is its canonical name. -/

/-- What the states of an enumeration are beside being its states. -/
inductive Base
  | plain
  | text
  | number
  deriving DecidableEq, Repr

inductive MemberValue
  | text (content : String)
  | number (value : Int)
  deriving DecidableEq, Repr

def MemberValue.render : MemberValue → String
  | .text content => Text.quoted content
  | .number value => Number.integerText value

structure Member where
  name : String
  value : MemberValue
  deriving DecidableEq, Repr

/-- The name, with the base and the members, stands for the identity of an enumeration:
those that are not the same have different names. -/
structure Enumeration where
  name : String
  base : Base
  members : List Member
  deriving DecidableEq, Repr

namespace Enumeration

def named? (enumeration : Enumeration) (name : String) : Option Member :=
  enumeration.members.find? fun member => member.name = name

def holder? (enumeration : Enumeration) (value : MemberValue) : Option Member :=
  enumeration.members.find? fun member => member.value = value

end Enumeration

/-- A member of an enumeration under its canonical name. -/
structure State where
  enumeration : Enumeration
  member : Member
  canonical : enumeration.holder? member.value = some member
  deriving DecidableEq, Repr

namespace State

/-- The state that a name stands for, be it canonical or not. -/
def named? (enumeration : Enumeration) (name : String) : Option State :=
  match enumeration.named? name with
  | none => none
  | some alternative =>
      match held : enumeration.holder? alternative.value with
      | none => none
      | some member =>
          some ⟨enumeration, member, by
            have same : member.value = alternative.value := by
              simpa using List.find?_some held
            rw [same]
            exact held⟩

/-- States with a base are equal when they are equal as members of the base,
across enumerations. -/
def equal (left right : State) : Bool :=
  match left.enumeration.base, right.enumeration.base with
  | .plain, .plain => left = right
  | .text, .text => left.member.value = right.member.value
  | .number, .number => left.member.value = right.member.value
  | _, _ => false

def qualifiedName (state : State) : String :=
  state.enumeration.name ++ "." ++ state.member.name

def render (state : State) : String :=
  "<" ++ state.qualifiedName ++ ": " ++ state.member.value.render ++ ">"

end State

end ClassTaint
