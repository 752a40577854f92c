/-! Lexical elements of YAML. Indentation is told by elements of its own, as are the starts of keys
that nothing but a later colon gives away. -/
namespace SchemaDecls.Yaml

inductive Token where
  | version (major minor : Nat)
  | tagHandle (handle expansion : String)
  | documentStart | documentEnd
  | flowSequenceStart | flowSequenceEnd | flowMappingStart | flowMappingEnd | flowEntry
  | blockSequenceStart | blockMappingStart | blockEnd | blockEntry
  | key | value
  | alias (name : String)
  | anchor (name : String)
  | tag (handle suffix : String)
  | scalar (plain : Bool) (value : String)
deriving DecidableEq, Repr

end SchemaDecls.Yaml
