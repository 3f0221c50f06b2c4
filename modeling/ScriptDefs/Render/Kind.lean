import ScriptDefs.Text.Blank
import ScriptDefs.Text.Case

/-!
# Kinds of output

The five outputs and the names by which they are asked for.
-/

namespace ScriptDefs

/-- A kind of output. -/
inductive OutputKind where
  /-- The catalogue as JSON. -/
  | catalogueJson
  /-- The typed document as JSON. -/
  | documentJson
  /-- Declarations for a type checker. -/
  | declarations
  /-- Documentation entries for an editor. -/
  | documentation
  /-- Editor snippets for event handlers. -/
  | snippets
  deriving DecidableEq, Repr

namespace OutputKind

/-- All kinds. -/
def all : List OutputKind := [catalogueJson, documentJson, declarations, documentation, snippets]

/-- The name of a kind. -/
def name : OutputKind → Text
  | catalogueJson => "lsl-json"
  | documentJson => "slua-json"
  | declarations => "slua-defs"
  | documentation => "slua-docs"
  | snippets => "vsc-snippets"

/-- Other names of kinds. -/
def aliases : List (Text × OutputKind) :=
  [("defs", declarations), ("luau-lsp-defs", declarations), ("docs", documentation),
    ("luau-lsp-docs", documentation)]

/-- The kind with a name, whatever its letter case and the white space around it. -/
def ofName? (t : Text) : Option OutputKind :=
  let key := t.trim.lower
  (aliases.lookup key).or (all.find? fun k ↦ k.name = key)

/-- All names in alphabetical order. -/
def names : List Text := (all.map name ++ aliases.map (·.1)).mergeSort Text.le

end OutputKind

end ScriptDefs
