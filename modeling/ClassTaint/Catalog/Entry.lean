import ClassTaint.Catalog.Rules
import ClassTaint.Config
import ClassTaint.Descriptor.Reader

namespace ClassTaint

/-! Entries of a catalog: what is said about one class. -/

structure Entry where
  key : Value
  summary : Value

/-- What stands before the last separator of a text, and what behind it. -/
def splitAtLast (separator : Char) :
    List Char → Option (List Char × List Char)
  | [] => none
  | letter :: rest =>
      match splitAtLast separator rest with
      | some (before, after) => some (letter :: before, after)
      | none => if letter = separator then some ([], rest) else none

theorem splitAtLast_eq_none_iff {separator : Char} {text : List Char} :
    splitAtLast separator text = none ↔ separator ∉ text := by
  induction text with
  | nil => simp [splitAtLast]
  | cons letter rest induction =>
      cases split : splitAtLast separator rest with
      | some parts =>
          have member : separator ∈ rest := by
            by_cases inRest : separator ∈ rest
            · exact inRest
            · rw [induction.mpr inRest] at split
              cases split
          simp [splitAtLast, split, member]
      | none =>
          have absent := induction.mp split
          simp [splitAtLast, split, absent, eq_comm]

theorem splitAtLast_append {separator : Char} {after : List Char}
    (absent : separator ∉ after) (before : List Char) :
    splitAtLast separator (before ++ separator :: after) =
      some (before, after) := by
  induction before with
  | nil => simp [splitAtLast, splitAtLast_eq_none_iff.mpr absent]
  | cons letter rest induction => simp [splitAtLast, induction]

namespace Entry

/-- A line is split at its last colon. One that has no colon, or is no text, is
a key without a summary. -/
def ofLine (line : Value) : Entry :=
  match line with
  | .text content =>
      match splitAtLast ':' content.toList with
      | some (key, summary) =>
          ⟨.text (String.ofList (Text.trim key)),
            .text (String.ofList (Text.trim summary))⟩
      | none => ⟨line, .null⟩
  | _ => ⟨line, .null⟩

end Entry

def Rules.entries : Rules → List Entry
  | lines items => items.map Entry.ofLine
  | mapping pairs => pairs.map fun (key, summary) => ⟨key, summary⟩

def Value.isDescriptor : Value → Bool
  | .text content => ClassTaint.isDescriptor content.toList
  | _ => false

def Value.isSummary : Value → Bool
  | .text content => ClassTaint.isSummary content.toList
  | _ => false

/-- Whether a descriptor and a summary have the forms that a catalog asks for,
whatever states there are. -/
def accepts (descriptor summary : Value) : Bool :=
  descriptor.isDescriptor && summary.isSummary

inductive EntryError
  | invalid (key summary : Value)
  | badSummary (key : String) (error : SummaryError)

def EntryError.message : EntryError → String
  | .invalid key summary =>
      "Invalid class summary entry " ++ key.render ++ ": " ++ summary.render
  | .badSummary key error =>
      "Bad class summary for " ++ key ++ ": " ++ error.message

/-- The first fault in writing the message. Only what is quoted in it can have one. -/
def EntryError.writingFault? : EntryError → Option WritingFault
  | .invalid key summary => key.writingFault?.or summary.writingFault?
  | .badSummary _ _ => none

/-- The descriptor and the configuration to store, or why there is none. -/
def Entry.read (entry : Entry) : Except EntryError (String × Config) :=
  match entry.key, entry.summary with
  | .text key, .text summary =>
      if accepts (.text key) (.text summary) then
        match Config.loadTaint summary with
        | .ok config => .ok (key, config)
        | .error error => .error (.badSummary key error)
      else
        .error (.invalid (.text key) (.text summary))
  | key, summary => .error (.invalid key summary)

end ClassTaint
