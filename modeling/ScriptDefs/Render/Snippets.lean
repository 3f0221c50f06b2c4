import ScriptDefs.Render.Basic
import ScriptDefs.Render.ParameterName

/-!
# Snippets

One editor snippet for each event: the head of a handler with simplified parameter names.
-/

namespace ScriptDefs

namespace Render

/-- A parameter of a handler. -/
def snippetParameter (a : Variable) : Except RenderError Text := do
  let types ← ofFormat (BaseType.formatAll a.types)
  let name ← ofFormat a.name.asText
  return name.parameterName ++ Text.ofString ": " ++ Text.joinWith " | " types

/-- The head of the handler of an event. -/
def handlerHead (name : Text) (e : Event) : Except RenderError Text := do
  let parameters ← e.args.mapM snippetParameter
  return Text.ofString "function " ++ name ++ .scalar '(' :: Text.joinWith ", " parameters ++
    [.scalar ')']

/-- The snippet of an event. -/
def snippet (name : Text) (e : Event) : Except RenderError Datum := do
  let head ← handlerHead name e
  let desc :=
    if e.desc.isTruthy then e.desc
    else .text (Text.ofString "Triggered when " ++ name ++ Text.ofString " occurs.")
  return .object [("scope", .text "luau"), ("prefix", .text name), ("body", .list [.text head]),
    ("description", desc)]

end Render

/-- The snippets of a document under the names of their events. -/
def Document.snippetEntries (d : Document) : Except RenderError (Assoc Text Datum) :=
  d.events.mapM fun e ↦ do return (e.1, ← Render.snippet e.1 e.2)

/-- The snippets of a document as JSON. -/
def Document.snippets (d : Document) : Except RenderError Text := do
  Render.json (.object (← d.snippetEntries))

end ScriptDefs
