import ScriptDefs.Data.Assoc
import ScriptDefs.Data.Basic

/-!
# Types, signatures and definitions

The typed document: a global table of constants, functions, value classes and further tables, together
with named types, classes and events. A custom type refers to a named type; it is never expanded.

Descriptions and the names of variables are plain data, since they are taken over as they are given;
the names of all definitions are texts.
-/

namespace ScriptDefs

/-- The types that have no parts and need no declaration. -/
inductive SimpleType where
  | string
  | boolean
  | number
  | integer
  | vector
  | buffer
  | emptyTable
  | quaternion
  | uuid
  | nil
  | list
  | self
  | any
  | noValue
  | numeric
  deriving DecidableEq, Repr

namespace SimpleType

/-- All simple types. -/
def all : List SimpleType :=
  [string, boolean, number, integer, vector, buffer, emptyTable, quaternion, uuid, nil, list, self,
    any, noValue, numeric]

/-- The name of a simple type. -/
def name : SimpleType → Text
  | string => "string"
  | boolean => "boolean"
  | number => "number"
  | integer => "integer"
  | vector => "vector"
  | buffer => "buffer"
  | emptyTable => "\x7b\x7d"
  | quaternion => "quaternion"
  | uuid => "uuid"
  | nil => "nil"
  | list => "list"
  | self => "self"
  | any => "any"
  | noValue => "()"
  | numeric => "numeric"

/-- The simple type with a name. -/
def ofName? (t : Text) : Option SimpleType := all.find? fun s ↦ s.name = t

end SimpleType

/-- A value that is a type of its own. -/
inductive Literal where
  | text (t : Text)
  | int (n : Int)
  | float (x : Binary64)
  deriving DecidableEq, Repr

mutual

/-- A type. -/
inductive BaseType where
  | simple (s : SimpleType)
  | literal (v : Literal)
  | custom (name : Text)
  | function (signature : Signature)
  | table (elements : List BaseType)

/-- An argument or a result: it has one of several types. -/
inductive Variable where
  | mk (name desc : Datum) (types : List BaseType) (variadic optional : Bool)

/-- One way to call a function. -/
inductive Signature where
  | mk (args results : List Variable)

end

namespace Variable

/-- The name of a variable; the empty text if it has none. -/
def name : Variable → Datum
  | .mk name _ _ _ _ => name

/-- What a variable is for. -/
def desc : Variable → Datum
  | .mk _ desc _ _ _ => desc

/-- The types of which a variable has one. -/
def types : Variable → List BaseType
  | .mk _ _ types _ _ => types

/-- The variable stands for any number of values. -/
def variadic : Variable → Bool
  | .mk _ _ _ variadic _ => variadic

/-- The variable may be left out. -/
def optional : Variable → Bool
  | .mk _ _ _ _ optional => optional

/-- The variable under another name. -/
def rename (v : Variable) (name : Datum) : Variable :=
  .mk name v.desc v.types v.variadic v.optional

/-- A variable with one value that has to be there. -/
def plain (name desc : Datum) (types : List BaseType) : Variable := .mk name desc types false false

end Variable

namespace Signature

/-- The arguments in order. -/
def args : Signature → List Variable
  | .mk args _ => args

/-- The results in order. -/
def results : Signature → List Variable
  | .mk _ results => results

end Signature

/-- A function with its overloads. -/
structure Function where
  name : Text
  desc : Datum
  link : Option Text
  signatures : List Signature
  energy : Datum := .int 0
  sleep : Datum := .int 0
  mustUse : Bool := false
  restricted : Bool := false
  deprecated : Bool := false
  godMode : Bool := false
  lindenExperience : Bool := false
  takesSelf : Bool := false

/-- A named value. -/
structure Constant where
  name : Text
  desc : Datum
  type : BaseType
  value : Datum := .null
  valueRaw : Option Text := none
  link : Text := []

/-- An event with the arguments of its handler. -/
structure Event where
  name : Text
  desc : Datum
  link : Text
  args : List Variable

/-- A type of values that have functions and properties of their own. -/
structure ValueClass where
  name : Text
  funcs : Assoc Text Function
  props : Assoc Text Constant

mutual

/-- What a table holds under a key. -/
inductive Property where
  | constant (c : Constant)
  | function (f : Function)
  | valueClass (c : ValueClass)
  | table (t : Table)

/-- A table of properties. -/
inductive Table where
  | mk (name : Text) (props : List (Text × Property))

end

namespace Table

/-- The name of a table. -/
def name : Table → Text
  | .mk name _ => name

/-- What a table holds, in order. -/
def props : Table → Assoc Text Property
  | .mk _ props => props

end Table

namespace Property

/-- The name of what a table holds, which need not be the key. -/
def name : Property → Text
  | .constant c => c.name
  | .function f => f.name
  | .valueClass c => c.name
  | .table t => t.name

end Property

/-- A name for one of several types. -/
structure Alias where
  name : Text
  desc : Datum
  types : List BaseType

/-- A global table with named types, classes and events. -/
structure Document where
  globalTable : Table
  types : Assoc Text Alias
  classes : Assoc Text ValueClass
  events : Assoc Text Event

end ScriptDefs
