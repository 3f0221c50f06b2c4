import ScriptDefs.Patch.Override
import ScriptDefs.Types.Plain

/-!
# Reading typed documents

Plain data as types, signatures and definitions. Fields are checked in a fixed order and the first
fault is reported with its place. Extra fields do not matter.
-/

namespace ScriptDefs

namespace BaseType

/-- A simple type given by its name. -/
def readSimple (place : Text) (payload : Datum) : Except ShapeError BaseType :=
  match payload.toText?.bind SimpleType.ofName? with
  | some s => .ok (.simple s)
  | none => .error ⟨place, .unknownSimpleType payload⟩

/-- A literal type given by its value. -/
def readLiteral (place : Text) : Datum → Except ShapeError BaseType
  | .text t => .ok (.literal (.text t))
  | .int n => .ok (.literal (.int n))
  | .float x => .ok (.literal (.float x))
  | _ => .error ⟨place, .notALiteral⟩

/-- A custom type given by its name. -/
def readCustom (place : Text) : Datum → Except ShapeError BaseType
  | .text t => .ok (.custom t)
  | _ => .error ⟨place, .notACustomName⟩

end BaseType

/-- Reading a list of types or of variables: whether it may be empty is up to its owner. -/
def requireTypes (place : Text) (types : List BaseType) : Except ShapeError (List BaseType) :=
  if types.isEmpty then .error ⟨place, .noTypes⟩ else .ok types

mutual

/-- The type that a value stands for. -/
def BaseType.read (place : Text) : Datum → Except ShapeError BaseType
  | .map fields =>
    match Fields.get? fields "value" with
    | none => .error ⟨place, .missingField "value"⟩
    | some payload =>
      match Fields.get fields "def" with
      | .text kind =>
        if kind = Text.ofString "simple" then BaseType.readSimple place payload
        else if kind = Text.ofString "value" then BaseType.readLiteral place payload
        else if kind = Text.ofString "custom" then BaseType.readCustom place payload
        else if kind = Text.ofString "function" then do
          return .function (← Signature.readAt place "value" fields)
        else if kind = Text.ofString "table" then do
          return .table (← BaseType.readListAt place "value" fields)
        else .error ⟨place, .unknownTypeDef (.text kind)⟩
      | found => .error ⟨place, .unknownTypeDef found⟩
  | d => .error ⟨place, .notAnObject d.kind⟩

/-- The types of a list under a key that has to be there. -/
def BaseType.readListAt (place key : Text) :
    List (Scalar × Datum) → Except ShapeError (List BaseType)
  | [] => .error ⟨place, .missingField key⟩
  | (k, d) :: rest =>
    if k = .text key then BaseType.readList (memberPlace place key) d
    else BaseType.readListAt place key rest

/-- The types that a list stands for. -/
def BaseType.readList (place : Text) : Datum → Except ShapeError (List BaseType)
  | .list items => BaseType.readItems place 0 items
  | d => .error ⟨place, .notAnArray d.kind⟩

/-- The types of items that begin at an index. -/
def BaseType.readItems (place : Text) (index : Nat) :
    List Datum → Except ShapeError (List BaseType)
  | [] => .ok []
  | d :: rest => do
    let t ← BaseType.read (itemPlace place index) d
    return t :: (← BaseType.readItems place (index + 1) rest)

/-- The variable of a kind that a value stands for. -/
def Variable.read (kind place : Text) : Datum → Except ShapeError Variable
  | .map fields => do
    Fields.expectDef fields place kind
    let types ← BaseType.readListAt place "type" fields
    let types ← requireTypes (memberPlace place "type") types
    let variadic ← Fields.flag fields place "variadic"
    let optional ← Fields.flag fields place "optional"
    return .mk (Fields.orEmptyText fields "name") (Fields.orEmptyText fields "desc") types variadic
      optional
  | d => .error ⟨place, .notAnObject d.kind⟩

/-- The variables of a list under a key; without the key there are none. -/
def Variable.readListAt (kind place key : Text) :
    List (Scalar × Datum) → Except ShapeError (List Variable)
  | [] => .ok []
  | (k, d) :: rest =>
    if k = .text key then Variable.readList kind (memberPlace place key) d
    else Variable.readListAt kind place key rest

/-- The variables that a list stands for. -/
def Variable.readList (kind place : Text) : Datum → Except ShapeError (List Variable)
  | .list items => Variable.readItems kind place 0 items
  | d => .error ⟨place, .notAnArray d.kind⟩

/-- The variables of items that begin at an index. -/
def Variable.readItems (kind place : Text) (index : Nat) :
    List Datum → Except ShapeError (List Variable)
  | [] => .ok []
  | d :: rest => do
    let v ← Variable.read kind (itemPlace place index) d
    return v :: (← Variable.readItems kind place (index + 1) rest)

/-- The signature that a value stands for. That the results are a list is checked before the arguments
are read. -/
def Signature.read (place : Text) : Datum → Except ShapeError Signature
  | .map fields => do
    let _ ← Fields.optionalList fields "result" (memberPlace place "result")
    let args ← Variable.readListAt "arg" place "args" fields
    let results ← Variable.readListAt "result" place "result" fields
    return .mk args results
  | d => .error ⟨place, .notAnObject d.kind⟩

/-- The signature under a key that has to be there. -/
def Signature.readAt (place key : Text) : List (Scalar × Datum) → Except ShapeError Signature
  | [] => .error ⟨place, .missingField key⟩
  | (k, d) :: rest =>
    if k = .text key then Signature.read (memberPlace place key) d
    else Signature.readAt place key rest

end

/-- The signatures of items that begin at an index. -/
def Signature.readItems (place : Text) (index : Nat) :
    List Datum → Except ShapeError (List Signature)
  | [] => .ok []
  | d :: rest => do
    let s ← Signature.read (itemPlace place index) d
    return s :: (← Signature.readItems place (index + 1) rest)

/-- The function that a value stands for. -/
def Function.read (place : Text) (d : Datum) : Except ShapeError Function := do
  let fields ← d.requireMap place
  fields.expectDef place "func"
  let items ← (← fields.require place "signatures").requireList (memberPlace place "signatures")
  if items.isEmpty then .error ⟨place, .noSignatures⟩
  return {
    name := ← fields.requireText place "name"
    desc := fields.orEmptyText "desc"
    link := ← fields.optionalText place "link"
    signatures := ← Signature.readItems (memberPlace place "signatures") 0 items
    energy := ← fields.numberOrNull place "energy"
    sleep := ← fields.numberOrNull place "sleep"
    mustUse := ← fields.flag place "must_use"
    restricted := ← fields.flag place "private"
    deprecated := ← fields.flag place "deprecated"
    godMode := ← fields.flag place "god-mode"
    lindenExperience := ← fields.flag place "linden-experience"
    takesSelf := ← fields.flag place "takesSelf" }

/-- The constant that a value stands for. -/
def Constant.read (place : Text) (d : Datum) : Except ShapeError Constant := do
  let fields ← d.requireMap place
  fields.expectDef place "const"
  let value ← fields.constantValue place
  return {
    name := ← fields.requireText place "name"
    desc := fields.orEmptyText "desc"
    type := ← BaseType.read (memberPlace place "type") (← fields.require place "type")
    value := value
    valueRaw := ← fields.optionalText place "valueRaw"
    link := (← fields.optionalText place "link").getD [] }

/-- The value class that a value stands for. -/
def ValueClass.read (place : Text) (d : Datum) : Except ShapeError ValueClass := do
  let fields ← d.requireMap place
  fields.expectDef place "class"
  let funcs ← fields.optionalMap "funcs" (memberPlace place "funcs")
  let props ← fields.optionalMap "props" (memberPlace place "props")
  return {
    name := ← fields.requireText place "name"
    funcs := ← readMembers Function.read (memberPlace place "funcs") funcs
    props := ← readMembers Constant.read (memberPlace place "props") props }

mutual

/-- The property that a value stands for. -/
def Property.read (place : Text) : Datum → Except ShapeError Property
  | .map fields =>
    match Fields.get fields "def" with
    | .text kind =>
      if kind = Text.ofString "const" then do return .constant (← Constant.read place (.map fields))
      else if kind = Text.ofString "func" then do
        return .function (← Function.read place (.map fields))
      else if kind = Text.ofString "class" then do
        return .valueClass (← ValueClass.read place (.map fields))
      else if kind = Text.ofString "table" then do
        let _ ← Fields.optionalMap fields "props" (memberPlace place "props")
        let name ← Fields.requireText fields place "name"
        return .table (.mk name (← Property.readMapAt place "props" fields))
      else .error ⟨place, .unknownPropertyDef (.text kind)⟩
    | found => .error ⟨place, .unknownPropertyDef found⟩
  | d => .error ⟨place, .notAnObject d.kind⟩

/-- The properties of an object under a key; without the key there are none. -/
def Property.readMapAt (place key : Text) :
    List (Scalar × Datum) → Except ShapeError (List (Text × Property))
  | [] => .ok []
  | (k, d) :: rest =>
    if k = .text key then Property.readMap (memberPlace place key) d
    else Property.readMapAt place key rest

/-- The properties that an object stands for. -/
def Property.readMap (place : Text) : Datum → Except ShapeError (List (Text × Property))
  | .map fields => Property.readEntries place fields
  | d => .error ⟨place, .notAnObject d.kind⟩

/-- The properties of entries with texts as keys. -/
def Property.readEntries (place : Text) :
    List (Scalar × Datum) → Except ShapeError (List (Text × Property))
  | [] => .ok []
  | (.text key, d) :: rest => do
    let p ← Property.read (memberPlace place key) d
    return (key, p) :: (← Property.readEntries place rest)
  | _ :: rest => Property.readEntries place rest

end

/-- The table that a value stands for. -/
def Table.read (place : Text) (d : Datum) : Except ShapeError Table := do
  let fields ← d.requireMap place
  fields.expectDef place "table"
  match ← Property.read place d with
  | .table t => return t
  | _ => .error ⟨place, .wrongDef "table" (fields.get "def")⟩

/-- The event that a value stands for. -/
def Event.read (place : Text) (d : Datum) : Except ShapeError Event := do
  let fields ← d.requireMap place
  fields.expectDef place "event"
  return {
    name := ← fields.requireText place "name"
    desc := fields.orEmptyText "desc"
    link := (← fields.optionalText place "link").getD []
    args := ← Variable.readListAt "arg" place "args" fields }

/-- The named type that a value stands for. -/
def Alias.read (place : Text) (d : Datum) : Except ShapeError Alias := do
  let fields ← d.requireMap place
  return {
    name := ← fields.requireText place "name"
    desc := fields.orEmptyText "desc"
    types := ← requireTypes (memberPlace place "type")
      (← BaseType.readListAt place "type" fields) }

/-- The document that a value stands for. -/
def Document.read (d : Datum) : Except ShapeError Document := do
  let fields ← d.requireMap "document"
  let types ← fields.optionalMap "types" "types"
  let classes ← fields.optionalMap "classes" "classes"
  let events ← fields.optionalMap "events" "events"
  return {
    globalTable := ← Table.read "global" (← fields.require "document" "global")
    types := ← readMembers Alias.read "types" types
    classes := ← readMembers ValueClass.read "classes" classes
    events := ← readMembers Event.read "events" events }

/-- The document with patches applied to its plain form. -/
def Document.overridden (patches : List Patch) (d : Document) : Except OverrideError Document :=
  override Document.toDatum Document.read patches d

end ScriptDefs
