import ScriptDefs.Catalogue.Plain
import ScriptDefs.Types.Builtin.Basic
import ScriptDefs.Types.Reading

/-!
# Typed documents from catalogues

Every declared type of a catalogue has exactly one image among the simple types. Arguments accept more
than their declared type; in loose mode numbers widen further. Where names meet, built-in definitions
win over those of the catalogue.
-/

namespace ScriptDefs

/-- How far the types of arguments are widened. -/
inductive RemapMode where
  | strict
  | loose
  deriving DecidableEq, Repr

/-- Why a catalogue has no typed document. -/
inductive RemapError where
  | unknownType (declared : Datum)
  | notAName (declared : Datum)
  deriving Repr

namespace RemapMode

/-- The name of a mode. -/
def name : RemapMode → Text
  | strict => "strict"
  | loose => "loose"

/-- The mode with a name. -/
def ofName? (t : Text) : Option RemapMode := [strict, loose].find? fun m ↦ m.name = t

/-- What is said of a name that no mode has. -/
def unknownMessage (t : Text) : Text := t.quoted ++ (" is not a valid RemapMode" : Text)

end RemapMode

namespace RemapError

/-- The wording of the error, if it has one. -/
def message : RemapError → Except DigitLimit (Option Text)
  | .unknownType declared => do
    return some (("Unknown source type " : Text) ++ (← declared.expression?))
  | .notAName _ => .ok none

end RemapError

namespace Remap

/-- The image of every declared type. -/
def typeTable : List (Text × SimpleType) :=
  [("integer", .integer), ("float", .number), ("void", .noValue), ("list", .list),
    ("rotation", .quaternion), ("null", .nil), ("key", .uuid), ("string", .string),
    ("vector", .vector)]

/-- The image of a declared type. -/
def sourceType (declared : Datum) : Except RemapError SimpleType :=
  match declared with
  | .text t =>
    match typeTable.lookup t with
    | some s => .ok s
    | none => .error (.unknownType declared)
  | .scalar _ => .error (.unknownType declared)
  | _ => .error (.notAName declared)

/-- The types of an argument whose declared type has a certain image. -/
def widened (mode : RemapMode) : SimpleType → List SimpleType
  | .integer => [.integer, .number]
  | .uuid => [.uuid, .string]
  | .number => if mode = .loose then [.numeric] else [.number]
  | .boolean => if mode = .loose then [.numeric] else [.boolean]
  | s => [s]

/-- The types of an argument. -/
def argumentTypes (mode : RemapMode) (declared : Datum) : Except RemapError (List BaseType) := do
  return (widened mode (← sourceType declared)).map .simple

/-- The only type of a result or a constant whose declared type has a certain image. -/
def unwidened (s : SimpleType) : SimpleType := if s = .integer then .number else s

/-- The types of a result; a null type stands for no value. -/
def resultTypes (declared : Datum) : Except RemapError (List BaseType) :=
  match declared with
  | .null => .ok [.simple .noValue]
  | d => do return [.simple (unwidened (← sourceType d))]

/-- The type of a constant. -/
def constantType (declared : Datum) : Except RemapError BaseType := do
  return .simple (unwidened (← sourceType declared))

/-- The arguments of a signature. -/
def arguments (mode : RemapMode) (args : List Catalogue.Argument) :
    Except RemapError (List Variable) :=
  args.mapM fun a ↦ do
    return .plain (.text a.name) a.desc (← argumentTypes mode a.type)

/-- What is left out at the start of function names. -/
def functionPrefix : Text := "ll"

/-- The function with its only signature. -/
def function (mode : RemapMode) (f : Catalogue.Function) : Except RemapError Function := do
  let args ← arguments mode f.args
  let results ← resultTypes f.result
  return {
    name := f.name.dropStart functionPrefix
    desc := f.desc
    link := f.link
    signatures := [.mk args [.plain (.text []) (.text []) results]]
    energy := f.energy
    sleep := f.sleep
    mustUse := f.mustUse
    restricted := f.restricted
    deprecated := f.deprecated
    godMode := f.godMode
    lindenExperience := f.lindenExperience }

/-- The constant with its type. -/
def constant (c : Catalogue.Constant) : Except RemapError Constant := do
  return {
    name := c.name
    desc := c.desc
    type := ← constantType c.type
    value := c.value
    valueRaw := c.valueRaw
    link := c.link }

/-- The event with its arguments. -/
def event (mode : RemapMode) (e : Catalogue.Event) : Except RemapError Event := do
  return { name := e.name, desc := e.desc, link := e.link, args := ← arguments mode e.args }

/-- The name of the global table. -/
def globalName : Text := "SLua"

/-- The name of the table that holds the functions of the catalogue. -/
def functionTable : Text := "ll"

/-- What the names of events begin with that are left out. -/
def skippedStart : Text := "state_"

/-- The functions of a catalogue under their shortened names. -/
def functions (mode : RemapMode) (c : Catalogue) : Except RemapError (Assoc Text Function) := do
  return Assoc.ofList ((← c.functions.values.mapM (function mode)).map fun f ↦ (f.name, f))

/-- The constants of a catalogue, sorted. -/
def constants (c : Catalogue) : Except RemapError (Assoc Text Constant) :=
  c.constants.sorted.mapM fun e ↦ do return (e.1, ← constant e.2)

/-- The events of a catalogue, sorted, without those that are left out. -/
def events (mode : RemapMode) (c : Catalogue) : Except RemapError (Assoc Text Event) :=
  (c.events.sorted.filter fun e ↦ !skippedStart.isPrefixOf e.1).mapM fun e ↦ do
    return (e.1, ← event mode e.2)

/-- The properties of the global table. -/
def globalProps (functions : Assoc Text Function) (constants : Assoc Text Constant)
    (builtins : Builtins) : Assoc Text Property :=
  let table : Assoc Text Property :=
    [(functionTable, .table (.mk functionTable (functions.mapValues .function)))]
  ((table.update (constants.mapValues .constant)).update
    (builtins.functions.mapValues .function)).update (builtins.tables.mapValues .table)

end Remap

/-- The typed document of a catalogue, merged with built-in definitions. -/
def Catalogue.toDocument (mode : RemapMode) (builtins : Builtins) (c : Catalogue) :
    Except RemapError Document := do
  let functions ← Remap.functions mode c
  let constants ← Remap.constants c
  let events ← Remap.events mode c
  return {
    globalTable := .mk Remap.globalName (Remap.globalProps functions constants builtins)
    types := builtins.types
    classes := builtins.classes
    events := events }

end ScriptDefs
