import ScriptDefs.Catalogue.Basic
import ScriptDefs.Data.Field
import ScriptDefs.Patch.Override

/-!
# Catalogues as plain data

The plain form of catalogues, and reading it back. Fields are checked in a fixed order and the first
fault is reported with its place.
-/

namespace ScriptDefs

namespace Catalogue

/-- An argument as plain data. -/
def Argument.toDatum (a : Argument) : Datum :=
  .object [("def", .text "arg"), ("name", .text a.name), ("type", a.type), ("desc", a.desc)]

/-- A function as plain data. -/
def Function.toDatum (f : Function) : Datum :=
  let fields : List (Text × Datum) :=
    [("def", .text "func"), ("name", .text f.name), ("args", .list (f.args.map Argument.toDatum)),
      ("result", f.result), ("desc", f.desc), ("energy", f.energy), ("sleep", f.sleep),
      ("must_use", .bool f.mustUse), ("link", .ofOption f.link), ("private", .bool f.restricted)]
  .object (fields ++
    flagFields [("deprecated", f.deprecated), ("god-mode", f.godMode),
      ("linden-experience", f.lindenExperience)])

/-- A constant as plain data. -/
def Constant.toDatum (c : Constant) : Datum :=
  let fields : List (Text × Datum) :=
    [("def", .text "const"), ("name", .text c.name), ("type", c.type),
      ("valueRaw", .ofOption c.valueRaw), ("value", c.value), ("desc", c.desc),
      ("link", .text c.link)]
  .object (fields ++ flagFields [("deprecated", c.deprecated), ("private", c.restricted)])

/-- An event as plain data. -/
def Event.toDatum (e : Event) : Datum :=
  let fields : List (Text × Datum) :=
    [("def", .text "event"), ("name", .text e.name), ("args", .list (e.args.map Argument.toDatum)),
      ("desc", e.desc), ("link", .text e.link)]
  .object (fields ++ flagFields [("deprecated", e.deprecated)])

/-- A type as plain data. -/
def TypeNote.toDatum (t : TypeNote) : Datum :=
  .object [("name", .text t.name), ("desc", t.desc)]

/-- A catalogue as plain data. -/
def toDatum (c : Catalogue) : Datum :=
  .object [("functions", .object (c.functions.mapValues Function.toDatum)),
    ("constants", .object (c.constants.mapValues Constant.toDatum)),
    ("events", .object (c.events.mapValues Event.toDatum)),
    ("types", .object (c.types.mapValues TypeNote.toDatum))]

/-- The argument that a value stands for. -/
def Argument.read (place : Text) (d : Datum) : Except ShapeError Argument := do
  let fields ← d.requireMap place
  fields.expectDef place "arg"
  return {
    name := ← fields.requireText place "name"
    type := .ofOption (← fields.optionalText place "type")
    desc := fields.orEmptyText "desc" }

/-- The arguments of items that begin at an index. -/
def Argument.readItems (place : Text) (index : Nat) :
    List Datum → Except ShapeError (List Argument)
  | [] => .ok []
  | d :: rest => do
    let a ← Argument.read (itemPlace place index) d
    return a :: (← Argument.readItems place (index + 1) rest)

/-- The arguments of an entry. -/
def Argument.readAll (place : Text) (fields : Fields) : Except ShapeError (List Argument) := do
  let items ← fields.optionalList "args" (memberPlace place "args")
  Argument.readItems (memberPlace place "args") 0 items

/-- The function that a value stands for. -/
def Function.read (place : Text) (d : Datum) : Except ShapeError Function := do
  let fields ← d.requireMap place
  fields.expectDef place "func"
  return {
    name := ← fields.requireText place "name"
    args := ← Argument.readAll place fields
    result := .ofOption (← fields.optionalText place "result")
    desc := fields.orEmptyText "desc"
    energy := ← fields.numberOrNull place "energy"
    sleep := ← fields.numberOrNull place "sleep"
    mustUse := ← fields.flag place "must_use"
    link := ← fields.optionalText place "link"
    restricted := ← fields.flag place "private"
    deprecated := ← fields.flag place "deprecated"
    godMode := ← fields.flag place "god-mode"
    lindenExperience := ← fields.flag place "linden-experience" }

/-- The constant that a value stands for. -/
def Constant.read (place : Text) (d : Datum) : Except ShapeError Constant := do
  let fields ← d.requireMap place
  fields.expectDef place "const"
  return {
    name := ← fields.requireText place "name"
    type := .ofOption (← fields.optionalText place "type")
    valueRaw := ← fields.optionalText place "valueRaw"
    value := ← fields.constantValue place
    desc := fields.orEmptyText "desc"
    link := (← fields.optionalText place "link").getD []
    deprecated := ← fields.flag place "deprecated"
    restricted := ← fields.flag place "private" }

/-- The event that a value stands for. -/
def Event.read (place : Text) (d : Datum) : Except ShapeError Event := do
  let fields ← d.requireMap place
  fields.expectDef place "event"
  return {
    name := ← fields.requireText place "name"
    args := ← Argument.readAll place fields
    desc := fields.orEmptyText "desc"
    link := (← fields.optionalText place "link").getD []
    deprecated := ← fields.flag place "deprecated" }

/-- The type that a value stands for. -/
def TypeNote.read (place : Text) (d : Datum) : Except ShapeError TypeNote := do
  let fields ← d.requireMap place
  return {
    name := ← fields.requireText place "name"
    desc := fields.orEmptyText "desc" }

/-- The entries of a section, which may be missing. -/
def readSection {α : Type} (read : Text → Datum → Except ShapeError α) (name : Text)
    (fields : Fields) : Except ShapeError (Assoc Text α) := do
  readMembers read name (← fields.optionalMap name name)

/-- The catalogue that a value stands for. -/
def read (d : Datum) : Except ShapeError Catalogue := do
  let fields ← d.requireMap "catalogue"
  return {
    functions := ← readSection Function.read "functions" fields
    constants := ← readSection Constant.read "constants" fields
    events := ← readSection Event.read "events" fields
    types := ← readSection TypeNote.read "types" fields }

/-- The catalogue with patches applied to its plain form, which is opened as far as they reach. -/
def overridden (patches : List Patch) (c : Catalogue) : Except OverrideError Catalogue :=
  override (fun c ↦ c.toDatum.unrolled (Patch.reach patches)) read patches c

end Catalogue

end ScriptDefs
