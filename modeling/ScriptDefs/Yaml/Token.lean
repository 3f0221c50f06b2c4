import ScriptDefs.Yaml.Cursor

/-!
# Tokens of YAML documents

Indicators, properties and scalars. Collections in block style get a token where they begin and one where
they end, though nothing but the indentation tells it.
-/

namespace ScriptDefs.Yaml

/-- A directive in front of a document. -/
inductive Directive where
  | version (major : Nat)
  | tag (handle start : Text)
  | other
  deriving DecidableEq, Repr

/-- A token. -/
inductive Token where
  | directive (d : Directive)
  | documentStart
  | documentEnd
  | streamEnd
  | blockSequence
  | blockMapping
  | blockEnd
  | flowSequence
  | flowSequenceEnd
  | flowMapping
  | flowMappingEnd
  | blockEntry
  | flowEntry
  | key
  | value
  | alias (name : Text)
  | anchor (name : Text)
  /-- A tag as it is written, or by the handle that it begins with. -/
  | tag (handle : Option Text) (suffix : Text)
  | scalar (content : Text) (plain : Bool)
  deriving DecidableEq, Repr

/-- The token is a directive. -/
def Token.isDirective : Token → Bool
  | .directive _ => true
  | _ => false

end ScriptDefs.Yaml
