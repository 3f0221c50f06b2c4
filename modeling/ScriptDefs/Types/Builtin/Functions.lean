import ScriptDefs.Types.Builtin.Basic

/-!
# Built-in functions

Conversions and constructors that stand in the global table itself.
-/

namespace ScriptDefs.Builtin

/-- What a conversion from a text does with texts that are almost right, before `examples`. -/
def conversionDesc (start examples : String) : String :=
  start ++
    ("\n\nInvalid strings will return `nil`\n\n#### Caveat\n\nDue to an old error from lsl strings that match " ++
      "upto the closing `>` are interpreted as valid\n\n") ++
    examples ++
    ("\n\nWhen testing if a string is a quaternion or a vector, you should test with `toquaternion` " ++
      "first.")

/-- The built-in functions. -/
def functions : Assoc Text Function :=
  byName [
    func "integer" "Creates an integer value from argument" [
      sig [.integer] [
        arg "value" "value to be convetered to an integer" (simples [.string, .number])]],
    func "uuid" "Creates a uuid from a string argument" [
      sig [.uuid] [argOf "str" "string to create uuid from" .string]],
    func "toquaternion"
      (conversionDesc "Creates a quaternion from a string argument in format `<1,1,1,1>`"
        "So `<1,1,1,1` and `<1,1,1,1spoon` are both cast to `<1,1,1,1>`") [
      sig [.quaternion, .nil] [argOf "str" "string to create quaternion from" .string]],
    func "tovector"
      (conversionDesc "Creates a vector from a string argument in format `<1,1,1>`"
        "So `<1,1,1`, `<1,1,1,1` and `<1,1,1spoon` are all cast to `<1,1,1>`") [
      sig [.vector, .nil] [argOf "str" "string to create vector from" .string]],
    func "quaternion" "Creates a quaternion from x,y,z,s" [
      sig [.quaternion] (["x", "y", "z", "s"].map fun axis ↦
        argOf axis (axis ++ " value of quaternion") .number)]]

end ScriptDefs.Builtin
