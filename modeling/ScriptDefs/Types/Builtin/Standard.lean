import ScriptDefs.Types.Builtin.Bits
import ScriptDefs.Types.Builtin.Classes
import ScriptDefs.Types.Builtin.Functions
import ScriptDefs.Types.Builtin.Libraries

/-!
# The standard built-in definitions

All built-in functions, tables, classes and named types together.
-/

namespace ScriptDefs

/-- The definitions merged into a document unless others are given. -/
def Builtins.standard : Builtins where
  functions := Builtin.functions
  tables := [Builtin.bits, Builtin.json, Builtin.base64, Builtin.vector]
  classes := Builtin.classes
  types := Builtin.types

end ScriptDefs
