import ScriptDefs.Yaml.Value

/-!
# Indented keyword documents

An indented keyword document is a mapping that holds the sections.
-/

namespace ScriptDefs.Keywords

/-- Why an indented keyword document cannot be read. -/
inductive IndentedError where
  | fault (e : Yaml.Fault)
  | notMapping
  deriving DecidableEq, Repr

/-- The wording of an error, where there is one. -/
def IndentedError.message? : IndentedError → Option Text
  | .fault .malformed => some "Malformed keywords YAML"
  | .fault e => e.message?
  | .notMapping => some "Keywords YAML must be a mapping at the top level"

/-- The error concerns the form of the document, and not a value in it. -/
def IndentedError.isOfForm : IndentedError → Bool
  | .fault .malformed | .notMapping => true
  | .fault _ => false

/-- The sections in the text of an indented document. -/
def readIndented (t : Text) : Except IndentedError Fields :=
  match Yaml.read t with
  | .error e => .error (.fault e)
  | .ok d =>
    match d.opened with
    | .map sections => .ok sections
    | _ => .error .notMapping

end ScriptDefs.Keywords
