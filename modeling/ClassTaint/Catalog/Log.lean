import ClassTaint.Catalog.Entry

namespace ClassTaint

/-! What is noted while a catalog is loaded. -/

inductive Level
  | debug
  | warning
  deriving DecidableEq, Repr

def Level.name : Level → String
  | .debug => "DEBUG"
  | .warning => "WARNING"

inductive Record
  | skipped (error : EntryError)
  | duplicate (key : String)
  | loaded (count : Nat)

namespace Record

def level : Record → Level
  | skipped _ => .warning
  | _ => .debug

/-- The source of the catalog is written as a path. -/
def message (path : String) : Record → String
  | skipped (.invalid key summary) =>
      (EntryError.invalid key summary).message ++ ", skipped"
  | skipped (.badSummary key error) =>
      "Bad class summary for " ++ key ++ ": " ++ error.message ++ ", skipped"
  | duplicate key =>
      "Duplicate class summary for " ++ key ++ ", keeping last"
  | loaded count =>
      "Loaded " ++ Number.naturalText count ++ " class summaries from " ++ path

end Record

end ClassTaint
