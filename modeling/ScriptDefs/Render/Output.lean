import ScriptDefs.Catalogue.Plain
import ScriptDefs.Render.Declarations
import ScriptDefs.Render.Documentation
import ScriptDefs.Render.Kind
import ScriptDefs.Render.Snippets
import ScriptDefs.Types.Plain

/-!
# Outputs

Every kind of output of a catalogue and its typed document.
-/

namespace ScriptDefs

/-- The output of a kind. -/
def OutputKind.render (kind : OutputKind) (catalogue : Catalogue) (document : Document) :
    Except RenderError Text :=
  match kind with
  | .catalogueJson => Render.json catalogue.toDatum
  | .documentJson => Render.json document.toDatum
  | .declarations => document.declarations
  | .documentation => document.documentation
  | .snippets => document.snippets

end ScriptDefs
