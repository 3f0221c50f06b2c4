import ScriptDefs.Types.Builtin.Basic

/-!
# Built-in classes and named types

The classes of values with operators, and the names for unions of types.
-/

namespace ScriptDefs.Builtin

/-- A function of a class, which takes a value of the class first. -/
def method (name desc : String) (signatures : List Signature) : Function :=
  { func name desc signatures with takesSelf := true }

/-- The value of the class itself. -/
def selfArg : Variable := argOf "self" "" .self

/-- An operator with another operand. -/
def binary (returns other : SimpleType) : Signature :=
  sig [returns] [selfArg, argOf "other" "" other]

/-- An operator without another operand. -/
def unary (returns : SimpleType) : Signature := sig [returns] [selfArg]

/-- One number for each axis. -/
def axes (owner : String) (names : List String) : Assoc Text Constant :=
  names.map fun axis ↦
    (Text.ofString axis, const axis (axis ++ " property of " ++ owner) (.simple .number))

/-- The overloads of an operator on vectors. -/
def byAny : List Signature :=
  [binary .vector .vector, binary .vector .quaternion, binary .vector .number]

/-- The overloads of an operator on integers. -/
def intOrNumber : List Signature := [binary .integer .integer, binary .number .number]

/-- The only form of a comparison. -/
def compare : List Signature := [binary .integer .integer]

/-- The class of identifiers. -/
def uuidClass : ValueClass where
  name := "uuid"
  funcs := byName [method "__tostring" "converts uuid to a string" [unary .string]]
  props := [("istruthy", const "istruthy" "property to check if uuid is valid" (.simple .boolean))]

/-- The class of rotations. -/
def quaternionClass : ValueClass where
  name := "quaternion"
  funcs := byName [
    method "__mul" "multiply vector/quaternion by quaternion"
      [binary .vector .vector, binary .quaternion .quaternion]]
  props := axes "quaternion" ["x", "y", "z", "s"]

/-- The class of vectors. -/
def vectorClass : ValueClass where
  name := "vector"
  funcs := byName [
    method "__mul" "multiply vector by number, vector, or quaternion" byAny,
    method "__div" "divide vector by number, vector, or quaternion" byAny,
    method "__idiv" "floor divide vector by number, vector, or quaternion" byAny,
    method "__add" "add two vectors" [binary .vector .vector],
    method "__sub" "subtract vector from vector" [binary .vector .vector],
    method "__unm" "negate a vector" [unary .vector]]
  props := axes "vector" ["x", "y", "z"]

/-- The class of integers. -/
def integerClass : ValueClass where
  name := "integer"
  funcs := byName [
    method "__add" "Meta function to allow for '+' operation" intOrNumber,
    method "__sub" "Meta function to allow for '-' operation" intOrNumber,
    method "__mul" "Meta function to allow for '*' operation" intOrNumber,
    method "__div" "Meta function to allow for '/' operation"
      [binary .number .integer, binary .number .number],
    method "__unm" "Meta function to allow for '-' negation" [unary .integer],
    method "__mod" "Meta function to allow for '%' operation" intOrNumber,
    method "__pow" "Meta function to allow for '^' operation" intOrNumber,
    method "__idiv" "Meta function to allow for '//' operation" intOrNumber,
    method "__eq" "Meta function to allow for '==' operation" compare,
    method "__lt" "Meta function to allow for '<' and '>' operation" compare,
    method "__le" "Meta function to allow for '<=' and '>=' operation" compare]
  props := []

/-- The built-in classes. -/
def classes : Assoc Text ValueClass :=
  [uuidClass, quaternionClass, vectorClass, integerClass].map fun c ↦ (c.name, c)

/-- A name for types. -/
def named (name desc : String) (types : List BaseType) : Text × Alias :=
  (name, ⟨name, .text desc, types⟩)

/-- The built-in named types. -/
def types : Assoc Text Alias := [
  named "numeric" "numeric type to genericize for functions that accept any numric type"
    (simples [.number, .boolean, .integer]),
  named "list" "a table type to try and restrict LL functions that only accept flat lists"
    [.table (simples [.string, .number, .integer, .vector, .uuid, .quaternion, .boolean])],
  named "lljson_constant" "A set of constants for changing json encode output"
    (simples [.number])]

end ScriptDefs.Builtin
