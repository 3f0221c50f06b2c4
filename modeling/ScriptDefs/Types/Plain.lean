import ScriptDefs.Data.Field
import ScriptDefs.Types.Basic

/-!
# Typed documents as plain data

The plain form of every definition: an object with a mark that tells its kind, and the fields in a fixed
order. Flags of rare use are left out when they are not set.
-/

namespace ScriptDefs

/-- A literal as plain data. -/
def Literal.toDatum : Literal → Datum
  | .text t => .text t
  | .int n => .int n
  | .float x => .float x

mutual

/-- A type as plain data. -/
def BaseType.toDatum : BaseType → Datum
  | .simple s => .object [("def", .text "simple"), ("value", .text s.name)]
  | .literal v => .object [("def", .text "value"), ("value", v.toDatum)]
  | .custom name => .object [("def", .text "custom"), ("value", .text name)]
  | .function s => .object [("def", .text "function"), ("value", s.toDatum)]
  | .table elements => .object [("def", .text "table"), ("value", .list (BaseType.toData elements))]

/-- Types as plain data. -/
def BaseType.toData : List BaseType → List Datum
  | [] => []
  | t :: rest => t.toDatum :: BaseType.toData rest

/-- A variable of a kind as plain data. -/
def Variable.toDatum (kind : Text) : Variable → Datum
  | .mk name desc types variadic optional =>
    .object [("def", .text kind), ("name", name), ("desc", desc),
      ("type", .list (BaseType.toData types)), ("variadic", .bool variadic),
      ("optional", .bool optional)]

/-- Variables of a kind as plain data. -/
def Variable.toData (kind : Text) : List Variable → List Datum
  | [] => []
  | v :: rest => v.toDatum kind :: Variable.toData kind rest

/-- A signature as plain data. -/
def Signature.toDatum : Signature → Datum
  | .mk args results =>
    .object [("def", .text "signature"), ("args", .list (Variable.toData "arg" args)),
      ("result", .list (Variable.toData "result" results))]

end

/-- A function as plain data. -/
def Function.toDatum (f : Function) : Datum :=
  let fields : List (Text × Datum) :=
    [("def", .text "func"), ("name", .text f.name), ("desc", f.desc),
      ("link", .ofOption f.link), ("energy", f.energy), ("sleep", f.sleep),
      ("must_use", .bool f.mustUse), ("signatures", .list (f.signatures.map Signature.toDatum))]
  .object (fields ++
    flagFields [("private", f.restricted), ("deprecated", f.deprecated), ("god-mode", f.godMode),
      ("linden-experience", f.lindenExperience), ("takesSelf", f.takesSelf)])

/-- A constant as plain data. -/
def Constant.toDatum (c : Constant) : Datum :=
  .object [("def", .text "const"), ("name", .text c.name), ("desc", c.desc),
    ("type", c.type.toDatum), ("value", c.value), ("valueRaw", .ofOption c.valueRaw),
    ("link", .text c.link)]

/-- A value class as plain data. -/
def ValueClass.toDatum (c : ValueClass) : Datum :=
  .object [("def", .text "class"), ("name", .text c.name),
    ("funcs", .object (c.funcs.mapValues Function.toDatum)),
    ("props", .object (c.props.mapValues Constant.toDatum))]

mutual

/-- A property as plain data. -/
def Property.toDatum : Property → Datum
  | .constant c => c.toDatum
  | .function f => f.toDatum
  | .valueClass c => c.toDatum
  | .table t => t.toDatum

/-- A table as plain data. -/
def Table.toDatum : Table → Datum
  | .mk name props =>
    .object [("def", .text "table"), ("name", .text name), ("props", .map (Table.toFields props))]

/-- Properties under their keys as plain data. -/
def Table.toFields : List (Text × Property) → List (Scalar × Datum)
  | [] => []
  | (key, p) :: rest => (.text key, p.toDatum) :: Table.toFields rest

end

/-- An event as plain data. -/
def Event.toDatum (e : Event) : Datum :=
  .object [("def", .text "event"), ("name", .text e.name), ("desc", e.desc),
    ("link", .text e.link), ("args", .list (Variable.toData "arg" e.args))]

/-- A named type as plain data. -/
def Alias.toDatum (a : Alias) : Datum :=
  .object [("name", .text a.name), ("desc", a.desc), ("type", .list (BaseType.toData a.types))]

/-- A document as plain data. -/
def Document.toDatum (d : Document) : Datum :=
  .object [("global", d.globalTable.toDatum),
    ("types", .object (d.types.mapValues Alias.toDatum)),
    ("classes", .object (d.classes.mapValues ValueClass.toDatum)),
    ("events", .object (d.events.mapValues Event.toDatum))]

end ScriptDefs
