import ClassTaint.Yaml.Directive

namespace ClassTaint.Yaml

/-! The tokens of a YAML text. Indentation shows as the starts and ends of block
collections. -/

inductive Token
  | directive (directive : Directive)
  | documentStart
  | documentEnd
  | streamEnd
  | blockSequenceStart
  | blockMappingStart
  | blockEnd
  | flowSequenceStart
  | flowSequenceEnd
  | flowMappingStart
  | flowMappingEnd
  | flowEntry
  | blockEntry
  | key
  | value
  | reference (name : String)
  | anchor (name : String)
  | tag (tag : WrittenTag)
  | scalar (text : String) (plain : Bool)
  deriving DecidableEq, Repr

/-- The tokens of a text up to its end, or up to a fault that is met when more of
them are asked for. -/
structure TokenStream where
  tokens : List Token
  ending : Fault
  deriving DecidableEq, Repr

end ClassTaint.Yaml
