import ScriptDefs.Catalogue.Cast
import ScriptDefs.Catalogue.Effect
import ScriptDefs.Catalogue.Link
import ScriptDefs.Data.Display
import ScriptDefs.Keywords.Extraction
import ScriptDefs.Keywords.TypeDescriptions
import ScriptDefs.Text.Clean

/-!
# Catalogues from indented documents

The sections of an indented keyword document as a catalogue. Declared types, results and costs are taken
over as they are. A section or an entry that is no mapping stops the extraction; null stands for an
empty one.
-/

namespace ScriptDefs.Keywords

open Catalogue

/-- Why a catalogue cannot be extracted from an indented document. -/
inductive DataError where
  | sectionNotMapping (name : Text)
  /-- An entry, with its key as an expression, is no mapping. -/
  | entryNotMapping (key name : Text)
  /-- The arguments of an entry are a value without parts. -/
  | notIterable (kind : DatumKind)
  | digitLimit (e : DigitLimit)
  deriving DecidableEq, Repr

/-- The wording of an error, where there is one. -/
def DataError.message? : DataError → Option Text
  | .sectionNotMapping name =>
    some (Text.ofString "Keywords YAML section " ++ name.quoted ++
      Text.ofString " must be a mapping")
  | .entryNotMapping key name =>
    some (Text.ofString "Keywords YAML entry " ++ key ++ Text.ofString " in " ++ name.quoted ++
      Text.ofString " must be a mapping")
  | .notIterable _ => none
  | .digitLimit e => some e.message

/-- The error concerns the form of the document, and not a value in it. -/
def DataError.isOfForm : DataError → Bool
  | .sectionNotMapping _ | .entryNotMapping _ _ => true
  | .notIterable _ | .digitLimit _ => false

/-- A computation that stops at numbers with too many digits. -/
def withinLimit {α : Type} (x : Except DigitLimit α) : Except DataError α :=
  x.mapError DataError.digitLimit

/-- A value as running text: null is empty, and truth values are in lower case. -/
def fieldText : Datum → Except DataError Text
  | .null => .ok []
  | .bool b => .ok (if b then "true" else "false")
  | d => withinLimit d.display?

/-- The description of an entry. -/
def dataDescription (fields : Fields) : Except DataError Datum := do
  return .text (← fieldText (fields.get "tooltip")).cleanDescription

/-- The entries of a mapping: null stands for an empty one. -/
def entryFields? (d : Datum) : Option Fields :=
  match d.opened with
  | .null => some []
  | .map fields => some fields
  | _ => none

/-- The entries of a section with their names. -/
def sectionEntries (name : Text) : Fields → Except DataError (List (Text × Fields))
  | [] => .ok []
  | (key, d) :: rest =>
    match entryFields? d with
    | none => do
      let shown ← withinLimit (Datum.scalar key).expression?
      throw (.entryNotMapping shown name)
    | some fields => do
      let entry ← withinLimit (Datum.scalar key).display?
      return (entry, fields) :: (← sectionEntries name rest)

/-- The section under a name; it may be missing or empty. -/
def dataSection (data : Fields) (name : Text) : Except DataError (List (Text × Fields)) :=
  let d := data.get name
  if !d.isTruthy then .ok []
  else
    match d.opened with
    | .map fields => sectionEntries name fields
    | _ => .error (.sectionNotMapping name)

/-- The items of a value: a text has its characters, bytes have their numbers, and a mapping has its
keys. -/
def itemsOf (d : Datum) : Except DataError (List Datum) :=
  if !d.isTruthy then .ok []
  else
    match d.opened with
    | .list items => .ok items
    | .pair first second => .ok [first, second]
    | .set members => .ok (members.map .scalar)
    | .map entries => .ok (entries.map fun e ↦ .scalar e.1)
    | .text t => .ok (t.map fun c ↦ .text [c])
    | .scalar (.bytes b) => .ok (b.map fun x ↦ .int x.toNat)
    | d => .error (.notIterable d.kind)

/-- An item of a list of arguments: a mapping with one name and its definition. -/
def dataArgument (owner : Text) (index : Nat) (item : Datum) : Except DataError ArgumentItem :=
  let malformed : Except DataError ArgumentItem := do
    let shown ← withinLimit item.expression?
    return some (.inr (malformedArgument.emit owner (malformedDetail index shown)))
  match item.opened with
  | .map [(name, d)] =>
    match entryFields? d with
    | some definition => do
      return some (.inl {
        name := ← withinLimit (Datum.scalar name).display?
        type := definition.get "type"
        desc := ← dataDescription definition })
    | none => malformed
  | _ => malformed

/-- The arguments of an entry, from an index on. -/
def dataItems (owner : Text) (index : Nat) :
    List Datum → Traced Diagnostic DataError (List ArgumentItem)
  | [] => pure []
  | item :: rest => do
    let argument ← Traced.ofExcept (dataArgument owner index item)
    Traced.note (argumentDiagnostics [argument])
    return argument :: (← dataItems owner (index + 1) rest)

/-- The arguments of an entry. -/
def dataArguments (owner : Text) (fields : Fields) :
    Traced Diagnostic DataError (List Argument) := do
  let items ← Traced.ofExcept (itemsOf (fields.get "arguments"))
  return argumentsOf (← dataItems owner 0 items)

/-- A flag of an entry. -/
def dataFlag (fields : Fields) (key : Text) : Bool := (fields.get key).isTruthy

/-- The function with an entry. -/
def dataFunction (effects : EffectTable) (name : Text) (fields : Fields) :
    Traced Diagnostic DataError Catalogue.Function := do
  let restricted := dataFlag fields "private"
  return {
    name
    args := ← dataArguments name fields
    result := fields.get "return"
    desc := ← Traced.ofExcept (dataDescription fields)
    energy := fields.get "energy"
    sleep := fields.get "sleep"
    mustUse := !(effectOf effects name).isTruthy
    link := some (if restricted then [] else capitalLink name)
    restricted
    deprecated := dataFlag fields "deprecated"
    godMode := dataFlag fields "god-mode"
    lindenExperience := dataFlag fields "linden-experience" }

/-- The diagnostics on the value of a constant. -/
def castDiagnostics (name raw : Text) (type : Datum) (problem : Option DiagnosticRule) :
    Except DataError (List Diagnostic) :=
  match problem with
  | none => .ok []
  | some rule => do
    let shown ← withinLimit type.expression?
    return [rule.emit name (constantDetail shown raw.quoted)]

/-- The constant with an entry. -/
def dataConstant (name : Text) (fields : Fields) :
    Traced Diagnostic DataError Catalogue.Constant := do
  let raw ← Traced.ofExcept (fieldText (fields.get "value"))
  let type := fields.get "type"
  let (value, problem) ← Traced.ofExcept (withinLimit (castConstant raw type))
  Traced.note (← Traced.ofExcept (castDiagnostics name raw type problem))
  return {
    name
    type
    valueRaw := some raw
    value
    desc := ← Traced.ofExcept (dataDescription fields)
    link := pageLink name
    deprecated := dataFlag fields "deprecated"
    restricted := dataFlag fields "private" }

/-- The event with an entry. -/
def dataEvent (name : Text) (fields : Fields) : Traced Diagnostic DataError Catalogue.Event := do
  return {
    name
    args := ← dataArguments name fields
    desc := ← Traced.ofExcept (dataDescription fields)
    link := capitalLink name
    deprecated := dataFlag fields "deprecated" }

/-- The section under a name. All its entries have to be mappings before the first is read. -/
def dataTable {α : Type} (read : Text → Fields → Traced Diagnostic DataError α) (data : Fields)
    (name : Text) : Traced Note DataError (Assoc Text α) := do
  readSection read (← Traced.ofExcept (dataSection data name))

/-- The catalogue in the sections of an indented document. -/
def ofData (effects : EffectTable) (data : Fields) : Traced Note DataError Catalogue := do
  return {
    functions := ← dataTable (dataFunction effects) data "functions"
    constants := ← dataTable dataConstant data "constants"
    events := ← dataTable dataEvent data "events"
    types := describedTypes }

end ScriptDefs.Keywords
