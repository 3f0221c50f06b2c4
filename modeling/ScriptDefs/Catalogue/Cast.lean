import ScriptDefs.Data.Basic
import ScriptDefs.Diagnostic
import ScriptDefs.Number.Numeral

/-!
# Casting constants

The text of a constant becomes a value according to its declared type. A text without a number in
front, and a type without a rule, give null and a diagnostic.
-/

namespace ScriptDefs.Catalogue

/-- An argument entry is not one name with one definition. -/
def malformedArgument : DiagnosticRule where
  code := "CATALOGUE_MALFORMED_ARGUMENT"
  message := "Argument entry must hold exactly one name -> definition pair; entry skipped."
  hint := some "Split the entry so that every argument map carries a single key."
  severity := .warning
  category := some "catalogue"

/-- A constant of a numeric type has no numeric value. -/
def castFailed : DiagnosticRule where
  code := "CATALOGUE_CONSTANT_CAST_FAILED"
  message := "Constant value could not be cast to its declared numeric type; value set to null."
  severity := .warning
  category := some "catalogue"

/-- A constant has a type that no rule is for. -/
def unknownType : DiagnosticRule where
  code := "CATALOGUE_UNKNOWN_CONSTANT_TYPE"
  message := "Constant has a type with no cast rule; value set to null."
  severity := .warning
  category := some "catalogue"

/-- The types whose constants keep their text as it is. -/
def textTypes : List Text := ["string", "key", "vector", "rotation"]

/-- The value of a constant with a text and a declared type, and the diagnostic if it has none. -/
def castConstant (raw : Text) (type : Datum) : Except DigitLimit (Datum × Option DiagnosticRule) :=
  match type.toText? with
  | none => .ok (.null, some unknownType)
  | some name =>
    if name = Text.ofString "integer" then do
      match ← raw.leadingInt? with
      | some n => return (.int n, none)
      | none => return (.null, some castFailed)
    else if name = Text.ofString "float" then
      match raw.leadingFloat? with
      | some x => .ok (.float x, none)
      | none => .ok (.null, some castFailed)
    else if textTypes.contains name then .ok (.text raw, none)
    else .ok (.null, some unknownType)

end ScriptDefs.Catalogue
