import ScriptDefs.Data.Assoc
import ScriptDefs.Data.Display

/-!
# Fields of plain data

Reading fields of an expected kind out of plain data. A failure names the place of the value and what
is wrong with it.
-/

namespace ScriptDefs

/-- What is wrong with a value. -/
inductive ShapeFault where
  | notAnObject (kind : DatumKind)
  | notAnArray (kind : DatumKind)
  | missingField (key : Text)
  | notAString (key : Text)
  | notAStringOrNull (key : Text)
  | notABoolean (key : Text)
  | notANumberOrNull (key : Text)
  | notAConstantValue
  | wrongDef (expected : Text) (found : Datum)
  | unknownSimpleType (found : Datum)
  | notALiteral
  | notACustomName
  | unknownTypeDef (found : Datum)
  | unknownPropertyDef (found : Datum)
  | noTypes
  | noSignatures
  deriving Repr

/-- A value at a place does not have the expected shape. -/
structure ShapeError where
  place : Text
  fault : ShapeFault
  deriving Repr

namespace ShapeFault

/-- The wording of a fault. -/
def message : ShapeFault → Except DigitLimit Text
  | notAnObject k => .ok (("expected an object, got " : Text) ++ k.name)
  | notAnArray k => .ok (("expected an array, got " : Text) ++ k.name)
  | missingField key => .ok (("missing field " : Text) ++ key.quoted)
  | notAString key => .ok (("field " : Text) ++ key.quoted ++ (" must be a string" : Text))
  | notAStringOrNull key =>
    .ok (("field " : Text) ++ key.quoted ++ (" must be a string or null" : Text))
  | notABoolean key => .ok (("field " : Text) ++ key.quoted ++ (" must be a boolean" : Text))
  | notANumberOrNull key =>
    .ok (("field " : Text) ++ key.quoted ++ (" must be a number or null" : Text))
  | notAConstantValue => .ok "field 'value' must be a number, string or null"
  | wrongDef expected found => do
    return ("expected def " : Text) ++ expected.quoted ++ (", got " : Text) ++ (← found.expression?)
  | unknownSimpleType found => do
    return ("unknown simple type " : Text) ++ (← found.expression?)
  | notALiteral => .ok "literal type value must be a string or number"
  | notACustomName => .ok "custom type name must be a string"
  | unknownTypeDef found => do return ("unknown type def " : Text) ++ (← found.expression?)
  | unknownPropertyDef found => do
    return ("unknown table property def " : Text) ++ (← found.expression?)
  | noTypes => .ok "type list must not be empty"
  | noSignatures => .ok "function needs at least one signature"

end ShapeFault

namespace ShapeError

/-- The wording of the error: the place, then the fault. -/
def message (e : ShapeError) : Except DigitLimit Text := do
  return e.place ++ (": " : Text) ++ (← e.fault.message)

end ShapeError

/-- A place inside another: a member of an object. -/
def memberPlace (place key : Text) : Text := place ++ .scalar '.' :: key

/-- A place inside another: an item of an array. -/
def itemPlace (place : Text) (index : Nat) : Text :=
  place ++ .scalar '[' :: Text.ofNat index ++ [.scalar ']']

namespace Datum

/-- The entries of a value that has to be an object. -/
def requireMap (place : Text) : Datum → Except ShapeError Fields
  | .map entries => .ok entries
  | d => .error ⟨place, .notAnObject d.kind⟩

/-- The items of a value that has to be an array. -/
def requireList (place : Text) : Datum → Except ShapeError (List Datum)
  | .list items => .ok items
  | d => .error ⟨place, .notAnArray d.kind⟩

end Datum

namespace Fields

variable (fields : Fields) (place key : Text)

/-- A field that has to be there. -/
def require : Except ShapeError Datum :=
  match fields.get? key with
  | some d => .ok d
  | none => .error ⟨place, .missingField key⟩

/-- A field that has to be a text. -/
def requireText : Except ShapeError Text := do
  match ← fields.require place key with
  | .text t => return t
  | _ => .error ⟨place, .notAString key⟩

/-- A field that may be missing or null and else has to be a text. -/
def optionalText : Except ShapeError (Option Text) :=
  match fields.get key with
  | .null => .ok none
  | .text t => .ok (some t)
  | _ => .error ⟨place, .notAStringOrNull key⟩

/-- A truth value that counts as false if it is missing. -/
def flag : Except ShapeError Bool :=
  match fields.get? key with
  | none => .ok false
  | some (.bool b) => .ok b
  | some _ => .error ⟨place, .notABoolean key⟩

/-- The mark that tells which kind of definition the fields belong to. -/
def expectDef (expected : Text) : Except ShapeError Unit :=
  match fields.get "def" with
  | .text t =>
    if t = expected then .ok () else .error ⟨place, .wrongDef expected (.text t)⟩
  | found => .error ⟨place, .wrongDef expected found⟩

/-- A number, or null, or missing, which counts as null. -/
def numberOrNull : Except ShapeError Datum :=
  match fields.get key with
  | .null => .ok .null
  | .int n => .ok (.int n)
  | .float x => .ok (.float x)
  | _ => .error ⟨place, .notANumberOrNull key⟩

/-- The value of a constant: a number, a text or null. -/
def constantValue : Except ShapeError Datum :=
  match fields.get "value" with
  | .null => .ok .null
  | .int n => .ok (.int n)
  | .float x => .ok (.float x)
  | .text t => .ok (.text t)
  | _ => .error ⟨place, .notAConstantValue⟩

/-- A field that counts as the empty text if it is missing, null, zero, false or empty. -/
def orEmptyText : Datum := (fields.get key).orEmptyText

/-- An object that may be missing; then it is empty. -/
def optionalMap (fieldPlace : Text) : Except ShapeError Fields :=
  match fields.get? key with
  | none => .ok []
  | some d => d.requireMap fieldPlace

/-- An array that may be missing; then it is empty. -/
def optionalList (fieldPlace : Text) : Except ShapeError (List Datum) :=
  match fields.get? key with
  | none => .ok []
  | some d => d.requireList fieldPlace

end Fields

/-- A text or null. -/
def Datum.ofOption : Option Text → Datum
  | none => .null
  | some t => .text t

/-- Those of the named flags that are set, as fields. -/
def flagFields (flags : List (Text × Bool)) : List (Text × Datum) :=
  (flags.filter (·.2)).map fun f ↦ (f.1, .bool true)

/-- Every member of an object with a text as key, read at its own place. -/
def readMembers {α : Type} (read : Text → Datum → Except ShapeError α) (place : Text)
    (fields : Fields) : Except ShapeError (Assoc Text α) :=
  fields.texts.mapM fun f ↦ do return (f.1, ← read (memberPlace place f.1) f.2)

end ScriptDefs
