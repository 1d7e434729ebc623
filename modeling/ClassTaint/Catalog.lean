import ClassTaint.Catalog.Log
import ClassTaint.Descriptor.Spelling

namespace ClassTaint

/-! Catalogs of class configurations, under descriptors in order of first
insertion. -/

abbrev Catalog := Table String Config

/-- What to do with an entry that cannot be stored: note it and go on, or stop. -/
inductive Mode
  | lenient
  | strict
  deriving DecidableEq, Repr

inductive CatalogError
  | rules (error : RulesError)
  | entry (error : EntryError)
  /-- An entry cannot be stored, and holds a number that is too long for the
  message about it. -/
  | unwritable
  /-- An entry cannot be stored, and is nested too deeply for the message about
  it. -/
  | tooDeep

/-- What becomes of a message that cannot be written. -/
def CatalogError.ofWriting : WritingFault → CatalogError
  | .longNumber => .unwritable
  | .tooDeep => .tooDeep

def CatalogError.message : CatalogError → String
  | .rules error => error.message
  | .entry error => error.message
  | .unwritable => "Number too long to be written"
  | .tooDeep => "Value nested too deeply to be written"

/-- The error of a summary that is behind another error. -/
def CatalogError.cause? : CatalogError → Option SummaryError
  | .entry (.badSummary _ error) => some error
  | _ => none

/-- What loading comes to, and what was noted up to its end. -/
structure Loading where
  outcome : Except CatalogError Catalog
  log : List Record

def Loading.note (record : Record) (loading : Loading) : Loading :=
  { loading with log := record :: loading.log }

namespace Catalog

/-- Stores entries in a catalog, one after the other. -/
def storeAll (mode : Mode) : Catalog → List Entry → Loading
  | catalog, [] => ⟨.ok catalog, [.loaded catalog.length]⟩
  | catalog, entry :: rest =>
      match entry.read with
      | .error error =>
          match error.writingFault? with
          | some fault => ⟨.error (.ofWriting fault), []⟩
          | none =>
              match mode with
              | .strict => ⟨.error (.entry error), []⟩
              | .lenient => (storeAll mode catalog rest).note (.skipped error)
      | .ok (key, config) =>
          let loading := storeAll mode (catalog.put key config) rest
          if catalog.contains key then
            loading.note (.duplicate key)
          else
            loading

def ofEntries (mode : Mode) (entries : List Entry) : Loading :=
  storeAll mode [] entries

def rulesName : String := "classes"

def ofDocument (mode : Mode) (document : Value) : Loading :=
  match Rules.ofDocument document rulesName with
  | .ok rules => ofEntries mode rules.entries
  | .error error => ⟨.error (.rules error), []⟩

def find? (catalog : Catalog) (name : String) : Option Config :=
  catalog.get? (String.ofList (spelledDescriptor name.toList))

end Catalog

/-- The descriptor meant by a name that may be any value. -/
def Value.spelledDescriptor (name : Value) : Except NotText String :=
  match name with
  | .text content =>
      .ok (String.ofList (ClassTaint.spelledDescriptor content.toList))
  | other => .error ⟨other.kindName⟩

end ClassTaint
