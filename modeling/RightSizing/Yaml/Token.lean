/-!
# Tokens of a YAML text

What a YAML text is made of, once its layout is told by tokens: the start of a block collection, its
keys and values, and its end.  `Yaml.tokens?` of `Yaml.Tokens` finds the tokens of a text.
-/

namespace RightSizing.Yaml

inductive Token where
  | version
  /-- texts that begin with the handle stand for texts that begin with the lead -/
  | tagHandle (handle lead : String)
  | documentStart
  | documentEnd
  | streamEnd
  | listStart
  | mappingStart
  /-- the end of a list or a mapping in block style -/
  | blockEnd
  | flowListStart
  | flowListEnd
  | flowMappingStart
  | flowMappingEnd
  /-- the dash of a list in block style -/
  | blockEntry
  /-- the comma of a list or a mapping in flow style -/
  | flowEntry
  | key
  | value
  | reference (name : String)
  | anchor (name : String)
  | tag (handle suffix : String)
  | scalar (plain : Bool) (text : String)
deriving DecidableEq, Repr

end RightSizing.Yaml
