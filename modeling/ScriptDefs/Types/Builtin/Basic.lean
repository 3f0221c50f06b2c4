import ScriptDefs.Types.Basic

/-!
# Built-in definitions

Definitions that never come from a catalogue, and short forms to put them down.
-/

namespace ScriptDefs

/-- Definitions merged into every document. -/
structure Builtins where
  functions : Assoc Text Function := []
  tables : Assoc Text Table := []
  classes : Assoc Text ValueClass := []
  types : Assoc Text Alias := []

namespace Builtins

/-- The definitions of a document. -/
def ofDocument (d : Document) : Builtins where
  functions := d.globalTable.props.filterMap fun
    | (k, .function f) => some (k, f)
    | _ => none
  tables := d.globalTable.props.filterMap fun
    | (k, .table t) => some (k, t)
    | _ => none
  classes := d.classes
  types := d.types

/-- The definitions as a document of their own. -/
def toDocument (name : Text) (b : Builtins) : Document where
  globalTable := .mk name
    ((b.functions.mapValues Property.function).update (b.tables.mapValues Property.table))
  types := b.types
  classes := b.classes
  events := []

end Builtins

namespace Builtin

/-- Simple types as types. -/
def simples (types : List SimpleType) : List BaseType := types.map .simple

/-- An argument with one of several types. -/
def arg (name desc : String) (types : List BaseType) : Variable :=
  .mk (.text name) (.text desc) types false false

/-- An argument of one simple type. -/
def argOf (name desc : String) (type : SimpleType) : Variable := arg name desc [.simple type]

/-- A signature with a single result of one of several types. -/
def sig (returns : List SimpleType) (args : List Variable) : Signature :=
  .mk args [.mk (.text []) (.text []) (simples returns) false false]

/-- A function with a link; its result should be used. -/
def linked (link name desc : String) (signatures : List Signature) : Function where
  name := name
  desc := .text desc
  link := some link
  signatures := signatures
  mustUse := true

/-- A function without a link. -/
def func : String → String → List Signature → Function := linked ""

/-- A constant without a value. -/
def const (name desc : String) (type : BaseType) : Constant where
  name := name
  desc := .text desc
  type := type

/-- Functions under their names. -/
def byName (functions : List Function) : Assoc Text Function := functions.map fun f ↦ (f.name, f)

/-- A table of constants and functions under their names. -/
def table (name : String) (constants : List Constant) (functions : List Function) : Text × Table :=
  (name, .mk name (constants.map (fun c ↦ (c.name, .constant c)) ++
    functions.map fun f ↦ (f.name, .function f)))

end Builtin

end ScriptDefs
