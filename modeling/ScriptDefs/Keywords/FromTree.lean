import ScriptDefs.Catalogue.Cast
import ScriptDefs.Catalogue.Effect
import ScriptDefs.Catalogue.Link
import ScriptDefs.Keywords.Extraction
import ScriptDefs.Markup.Tree
import ScriptDefs.Text.Clean
import ScriptDefs.Text.Quoted

/-!
# Catalogues from marked-up documents

The sections of a marked-up keyword document as a catalogue. What is not a map is passed over; a missing
field has a default. Only a number with too many digits stops the extraction.
-/

namespace ScriptDefs.Keywords

open Catalogue Markup

/-- The section under a name, if it is a map. -/
def treeSection? (root : Tree) (name : Text) : Option Tree := (root.get? name).filter Tree.isMap

/-- The definitions of a section by name. -/
def treeDefinitions (root : Tree) (name : Text) : List (Text × Tree) :=
  match treeSection? root name with
  | none => []
  | some t => t.entries.filter fun e ↦ e.2.isMap

/-- The remark on a section that the document does not have. -/
def sectionNotes (root : Tree) (name : Text) : List Note :=
  if (treeSection? root name).isSome then [] else [.noSection name]

/-- The text of a field, or a default if there is no such field. -/
def textOr (t : Tree) (key default : Text) : Text := (t.getText? key).getD default

/-- The description of a definition. -/
def treeDescription (t : Tree) : Datum := .text (textOr t "tooltip" []).cleanDescription

/-- An item of an array of arguments: a map with one name and its definition. -/
def treeArgument (owner : Text) (index : Nat) (item : Tree) : ArgumentItem :=
  if !item.isMap then none
  else
    match item.entries with
    | [(name, definition)] =>
      if definition.isMap then
        some (.inl { name
                     type := .text (textOr definition "type" "n/a")
                     desc := .text (textOr definition "tooltip" []) })
      else none
    | _ => some (.inr (malformedArgument.emit owner (malformedDetail index item.shown)))

/-- The arguments of a definition, from an index on. -/
def treeItems (owner : Text) (index : Nat) : List Tree → List ArgumentItem
  | [] => []
  | item :: rest => treeArgument owner index item :: treeItems owner (index + 1) rest

/-- The arguments of a definition; there are none without an array. -/
def treeArguments (owner : Text) (definition : Tree) : List ArgumentItem :=
  match definition.get? "arguments" with
  | some items => if items.tag = Text.ofString "array" then treeItems owner 0 items.children else []
  | none => []

/-- A cost, or null if it is no number. -/
def treeCost (t : Tree) (key default : Text) : Except DigitLimit Datum := do
  match ← (textOr t key default).leadingInt? with
  | some n => return .int n
  | none => return .null

/-- The function with a definition. -/
def treeFunction (effects : EffectTable) (name : Text) (t : Tree) :
    Traced Diagnostic DigitLimit Catalogue.Function := do
  let items := treeArguments name t
  Traced.note (argumentDiagnostics items)
  return {
    name
    args := argumentsOf items
    result := .text (textOr t "return" "void")
    desc := treeDescription t
    energy := ← Traced.ofExcept (treeCost t "energy" "10")
    sleep := ← Traced.ofExcept (treeCost t "sleep" "0")
    mustUse := !(effectOf effects name).isTruthy
    link := some (capitalLink name) }

/-- The constant with a definition. -/
def treeConstant (name : Text) (t : Tree) : Traced Diagnostic DigitLimit Catalogue.Constant := do
  let raw := textOr t "value" []
  let type := textOr t "type" "void"
  let (value, problem) ← Traced.ofExcept (castConstant raw (.text type))
  Traced.note (problem.map fun rule ↦ rule.emit name (constantDetail type.quoted raw.quoted)).toList
  return {
    name
    type := .text type
    valueRaw := some raw
    value
    desc := treeDescription t
    link := pageLink name }

/-- The event with a definition. -/
def treeEvent (name : Text) (t : Tree) : Traced Diagnostic DigitLimit Catalogue.Event := do
  let items := treeArguments name t
  Traced.note (argumentDiagnostics items)
  return { name, args := argumentsOf items, desc := treeDescription t, link := capitalLink name }

/-- The type with a definition. -/
def treeType (name : Text) (t : Tree) : Traced Diagnostic DigitLimit Catalogue.TypeNote :=
  pure { name, desc := treeDescription t }

/-- Names that are no constants though they stand among them. -/
def skippedConstants : List Text := ["default"]

/-- A section of definitions, after the remark on a section that is missing. -/
def treeSection {α : Type} (root : Tree) (name : Text)
    (read : Text → Tree → Traced Diagnostic DigitLimit α) (definitions : List (Text × Tree)) :
    Traced Note DigitLimit (Assoc Text α) := do
  Traced.note (sectionNotes root name)
  readSection read definitions

/-- The catalogue in the map of sections of a marked-up document. -/
def ofTree (effects : EffectTable) (root : Tree) : Traced Note DigitLimit Catalogue := do
  let constantDefinitions :=
    (treeDefinitions root "constants").filter fun e ↦ !skippedConstants.contains e.1
  return {
    functions := ← treeSection root "functions" (treeFunction effects)
      (treeDefinitions root "functions")
    constants := ← treeSection root "constants" treeConstant constantDefinitions
    events := ← treeSection root "events" treeEvent (treeDefinitions root "events")
    types := ← treeSection root "types" treeType (treeDefinitions root "types") }

end ScriptDefs.Keywords
