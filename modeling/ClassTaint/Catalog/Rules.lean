import ClassTaint.Value

namespace ClassTaint

/-! The rules of a document, and the entries in them. Rules are a list of lines
or a mapping. -/

inductive Rules
  | lines (items : List Value)
  | mapping (pairs : List (Value × Value))

inductive RulesError
  | missing (name : String)
  | invalid (name : String)
  deriving DecidableEq, Repr

def RulesError.message : RulesError → String
  | .missing name => "Missing " ++ name ++ " rules"
  | .invalid name => "Invalid " ++ name ++ " rules"

namespace Rules

def toValue : Rules → Value
  | lines items => .list items
  | mapping pairs => .mapping pairs

def ofValue? : Value → Option Rules
  | .list items => some (lines items)
  | .mapping pairs => some (mapping pairs)
  | _ => none

/-- The rules under a name at the top of a document. -/
def ofDocument (document : Value) (name : String) : Except RulesError Rules :=
  match document with
  | .mapping pairs =>
      match Table.get? (.text name) pairs with
      | none => .error (.missing name)
      | some value =>
          match ofValue? value with
          | some rules => .ok rules
          | none => .error (.invalid name)
  | _ => .error (.missing name)

end Rules

end ClassTaint
