import ScriptDefs.Render.Basic

/-!
# Documentation

One entry for each constant, function and table, under the dotted path of names that leads to it. A few
curated entries take precedence over those of the document.
-/

namespace ScriptDefs

namespace Render

/-- The fields of a documentation entry. -/
abbrev DocEntry := List (Text × Datum)

/-- What every documentation key begins with. -/
def docKeyStart : Text := "@roblox/global/"

/-- The page on moving from one dialect to the other. -/
def transitionLink : Text :=
  "https://wiki.secondlife.com/wiki/SLua_Alpha#Transitioning_from_LSL_to_SLua"

/-- A curated entry. -/
def curated (documentation link sample : Text) : DocEntry :=
  [("documentation", .text documentation), ("learn_more_link", .text link),
    ("code_sample", .text sample)]

/-- The curated entries. -/
def curatedEntries : List (Text × DocEntry) :=
  [("ll", curated "The global LL object that stored all the ll specific functions"
      "https://wiki.secondlife.com/wiki/Category:LSL_Functions" "ll.Foo(...)"),
    ("integer", curated "function that returns an LL integer type for a given number"
      transitionLink "integer(123)"),
    ("quaternion", curated "function to create an LL quaternion value from 4 numbers"
      transitionLink "quaternion(0,0,0,1)"),
    ("uuid", curated "function to create an LL UUID value from a string" transitionLink
      "uuid('677bf9a4-bba5-4cf9-a4ad-4802a0f7ef46')")]

/-- A description, or what stands for a missing one. -/
def descOr (desc : Datum) : Datum := if desc.isTruthy then desc else .text "n/a"

/-- The value of a constant as running text. -/
def valueText (value : Datum) : Except RenderError Text :=
  match value with
  | .null => .ok "nil"
  | d => ofFormat d.inText

/-- The entry of a constant. -/
def constantEntry (path : Text) (c : Constant) : Except RenderError DocEntry := do
  let value ← valueText c.value
  let desc ← ofFormat (descOr c.desc).inText
  return [("documentation", .text (value ++ Text.ofString " : " ++ desc)),
    ("learn_more_link", .text c.link), ("code_sample", .text path)]

/-- The entry of a function. -/
def functionEntry (types : Assoc Text Alias) (tables : List Text) (f : Function) :
    Except RenderError DocEntry := do
  let sample ← (f.preferredSample types tables).mapError .sample
  let desc := descOr f.desc
  match f.link with
  | some (c :: t) =>
    return [("documentation", desc), ("code_sample", .text sample.text),
      ("learn_more_link", .text (c :: t))]
  | _ => return [("documentation", desc), ("code_sample", .text sample.text)]

/-- The entry of a table. -/
def tableEntry (name : Text) : DocEntry :=
  [("documentation", .text (Text.ofString "Global table " ++ name))]

/-- The documentation key of a path of names. -/
def docKey (path : List Text) : Text := docKeyStart ++ Text.joinWith "." path

mutual

/-- The entries of a property inside the tables that lead to it, put to those collected before. -/
def collectProperty (types : Assoc Text Alias) (tables : List Text)
    (docs : Assoc Text DocEntry) : Property → Except RenderError (Assoc Text DocEntry)
  | .constant c => do
    let entry ← constantEntry (Text.joinWith "." (tables ++ [c.name])) c
    return docs.put (docKey (tables ++ [c.name])) entry
  | .function f => do
    let entry ← functionEntry types tables f
    return docs.put (docKey (tables ++ [f.name])) entry
  | .table (.mk name props) =>
    collectProperties types (tables ++ [name])
      (docs.put (docKey (tables ++ [name])) (tableEntry name)) props
  | .valueClass _ => .ok docs

/-- The entries of the properties of a table, put to those collected before. -/
def collectProperties (types : Assoc Text Alias) (tables : List Text)
    (docs : Assoc Text DocEntry) :
    List (Text × Property) → Except RenderError (Assoc Text DocEntry)
  | [] => .ok docs
  | (_, p) :: rest => do
    let docs' ← collectProperty types tables docs p
    collectProperties types tables docs' rest

end

end Render

/-- The documentation entries of a document. -/
def Document.docEntries (d : Document) : Except RenderError (Assoc Text Render.DocEntry) := do
  let docs ← Render.collectProperties d.types [] [] d.globalTable.props
  return docs.update (Render.curatedEntries.map fun e ↦ (Render.docKey [e.1], e.2))

/-- The documentation of a document as JSON. -/
def Document.documentation (d : Document) : Except RenderError Text := do
  Render.json (.object ((← d.docEntries).mapValues Datum.object))

end ScriptDefs
