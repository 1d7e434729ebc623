import ClassTaint.Catalog
import ClassTaint.Catalog.Standard
import ClassTaint.Yaml.Text

namespace ClassTaint

/-! Loading catalogs from where they are kept. -/

/-- Where a catalog is read from: the one that comes with the program, a file, or
a path with no file behind it. A file is read with an order for the sets in it. -/
inductive Source
  | standard
  | file (content : ByteArray) (order : Yaml.SetOrder := .written)
  | directory
  | missing

inductive SourceError
  | missing
  | directory
  | encoding
  | yaml (fault : Yaml.Fault)
  | catalog (error : CatalogError)

structure SourceLoading where
  outcome : Except SourceError Catalog
  log : List Record

namespace Catalog

def ofText (mode : Mode) (order : Yaml.SetOrder) (text : String) : SourceLoading :=
  match Yaml.read Yaml.reducedRules order text with
  | .error fault => ⟨.error (.yaml fault), []⟩
  | .ok document =>
      let loading := ofDocument mode document
      ⟨loading.outcome.mapError .catalog, loading.log⟩

def ofSource (mode : Mode) : Source → SourceLoading
  | .standard => ofText mode .written standardText
  | .file content order =>
      match String.fromUTF8? content with
      | some text => ofText mode order text
      | none => ⟨.error .encoding, []⟩
  | .directory => ⟨.error .directory, []⟩
  | .missing => ⟨.error .missing, []⟩

end Catalog

end ClassTaint
