import ClassTaint.Enumeration

namespace ClassTaint.TaintState

/-! The taint states, whose values are their names. -/

def names : List String :=
  ["TAINTED", "UNKNOWN", "SAFE", "NULL", "INVALID"]

def enumeration : Enumeration where
  name := "TaintState"
  base := .text
  members := names.map fun name => ⟨name, .text name⟩

/-- The state of a class for which nothing is configured. -/
def null : State where
  enumeration := enumeration
  member := ⟨"NULL", .text "NULL"⟩
  canonical := by decide

end ClassTaint.TaintState
