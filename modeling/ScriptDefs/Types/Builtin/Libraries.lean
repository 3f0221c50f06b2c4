import ScriptDefs.Types.Builtin.Basic

/-!
# Built-in libraries

The tables for JSON, for base64 and for vectors.
-/

namespace ScriptDefs.Builtin

/-- The types of values that JSON can hold. -/
def jsonTypes : List SimpleType :=
  [.string, .number, .integer, .vector, .uuid, .quaternion, .boolean, .emptyTable, .nil]

/-- The table for JSON. -/
def json : Text × Table :=
  table "lljson" [
    const "_NAME" "Name of the lljson table" (.literal (.text "\"lljson\"")),
    const "_VERSION" "Version of the lljson library (based on the lua-cjson library)"
      (.simple .string),
    const "array_mt" "Metatable for declaring table as an array for json encode"
      (.simple .emptyTable),
    const "empty_array_mt" "Metatable for declaring table as an empty array for json encode"
      (.simple .emptyTable),
    const "empty_array" "A constant to pass for an empty array to json encode"
      (.custom "lljson_constant"),
    const "null" "A constant to pass for null to json encode" (.custom "lljson_constant")] [
    func "encode" "encode lua value as json" [
      sig [.string] [arg "value" "value to encode" (simples jsonTypes)]],
    func "decode" "decode json string to lua value" [
      sig jsonTypes [argOf "json" "json string to decode" .string]]]

/-- The text that is decoded from base64. -/
def base64Source : Variable := argOf "base64" "base64 string to decode" .string

/-- The argument that decides what base64 is decoded to. -/
def asBuffer (value : String) : Variable := arg "asBuffer" "" [.literal (.text value)]

/-- The table for base64. -/
def base64 : Text × Table :=
  table "llbase64" [] [
    func "encode" "encode a string or buffer to base64" [
      sig [.string] [arg "value" "value to encode" (simples [.string, .buffer])]],
    func "decode" "decode a base64 string, to a buffer or string" [
      sig [.string] [base64Source],
      sig [.buffer] [base64Source, asBuffer "true"],
      sig [.string] [base64Source, asBuffer "false"]]]

/-- A function on vectors. -/
def vec : String → String → List Signature → Function :=
  linked "https://luau.org/library#vector-library"

/-- A vector as an argument. -/
def vectorArg (name : String) : Variable := argOf name "" .vector

/-- Any number of vectors. -/
def vectorArgs (name : String) : Variable := .mk (.text name) (.text []) [.simple .vector] true false

/-- The functions of the table for vectors. -/
def vectorFunctions : List Function :=
  let one := [vectorArg "vec"]
  let two := [vectorArg "vec1", vectorArg "vec2"]
  [
    vec "create" "Creates a new vector with the given component values" [
      sig [.vector] (["x", "y", "z"].map fun axis ↦
        arg axis (axis ++ " value of vector") (simples [.number, .integer]))],
    vec "magnitude" "Calculates the magnitude of a given vector." [sig [.number] one],
    vec "normalize" "Computes the normalized version (unit vector) of a given vector."
      [sig [.vector] one],
    vec "cross" "Computes the cross product of two vectors." [sig [.vector] two],
    vec "dot" "Computes the dot product of two vectors." [sig [.number] two],
    vec "angle"
      ("Computes the angle between two vectors in radians. The axis, if specified, is used to " ++
        "determine the sign of the angle.")
      [sig [.number] (two ++ [.mk (.text "axis") (.text []) [.simple .vector] false true])],
    vec "floor" "Applies `math.floor` to every component of the input vector." [sig [.vector] one],
    vec "ceil" "Applies `math.ceil` to every component of the input vector." [sig [.vector] one],
    vec "abs" "Applies `math.abs` to every component of the input vector." [sig [.vector] one],
    vec "sign" "Applies `math.sign` to every component of the input vector." [sig [.vector] one],
    vec "clamp" "Applies `math.clamp` to every component of the input vector."
      [sig [.vector] (one ++ [vectorArg "min", vectorArg "max"])],
    vec "max" "Applies `math.max` to the corresponding components of the input vectors."
      [sig [.vector] [vectorArgs "vecs"]],
    vec "min" "Applies `math.min` to the corresponding components of the input vectors."
      [sig [.vector] [vectorArgs "vecs"]]]

/-- The table for vectors. -/
def vector : Text × Table :=
  table "vector" [
    const "zero" "A Zero vector <0,0,0>" (.simple .vector),
    const "one" "A one vector <1,1,1>" (.simple .vector)] vectorFunctions

end ScriptDefs.Builtin
