import ScriptDefs.Text.Quoted
import ScriptDefs.Types.Basic

/-!
# Definitions by hand

Short forms in which hand-written definitions are put down. A type is specified by the name of a simple
type, by a type, or by a list of either.
-/

namespace ScriptDefs

/-- Why a definition by hand is refused. -/
inductive SpecError where
  | notSimple (name : Text)
  | argumentWithoutType (name : Text)
  | resultWithoutType
  | functionWithoutSignature (name : Text)
  | constantWithoutType
  | constantWithTypes
  deriving DecidableEq, Repr

namespace SpecError

/-- The wording of the error. -/
def message : SpecError → Text
  | notSimple name => ("Not a simple type name: " : Text) ++ name.quoted
  | argumentWithoutType name =>
    ("Argument " : Text) ++ name.quoted ++ (" must admit at least one type" : Text)
  | resultWithoutType => "Result '' must admit at least one type"
  | functionWithoutSignature name =>
    ("Function " : Text) ++ name.quoted ++ (" must have at least one signature" : Text)
  | constantWithoutType => "not enough values to unpack (expected 1, got 0)"
  | constantWithTypes => "too many values to unpack (expected 1)"

end SpecError

/-- One type of a specification. -/
inductive TypeItem where
  | name (t : Text)
  | type (t : BaseType)

/-- The types of a variable or constant. -/
inductive TypeSpec where
  | one (item : TypeItem)
  | several (items : List TypeItem)

namespace TypeItem

/-- The type that an item stands for. -/
def toType : TypeItem → Except SpecError BaseType
  | .type t => .ok t
  | .name t =>
    match SimpleType.ofName? t with
    | some s => .ok (.simple s)
    | none => .error (.notSimple t)

end TypeItem

namespace TypeSpec

/-- The types that a specification stands for. -/
def toTypes : TypeSpec → Except SpecError (List BaseType)
  | .one item => do return [← item.toType]
  | .several items => items.mapM TypeItem.toType

end TypeSpec

namespace Variable

/-- An argument with specified types. -/
def argument (name desc : Text) (spec : TypeSpec) (variadic optional : Bool) :
    Except SpecError Variable := do
  let types ← spec.toTypes
  if types.isEmpty then .error (.argumentWithoutType name)
  return .mk (.text name) (.text desc) types variadic optional

/-- A result with specified types; results have no name. -/
def result (spec : TypeSpec) (desc : Text) (variadic optional : Bool) :
    Except SpecError Variable := do
  let types ← spec.toTypes
  if types.isEmpty then .error .resultWithoutType
  return .mk (.text []) (.text desc) types variadic optional

end Variable

namespace Signature

/-- A signature with a single result. -/
def returning (spec : TypeSpec) (args : List Variable) : Except SpecError Signature := do
  return .mk args [← Variable.result spec [] false false]

end Signature

namespace Function

/-- A function whose result should be used. -/
def make (name desc : Text) (signatures : List Signature) (link : Text) (takesSelf : Bool) :
    Except SpecError Function :=
  if signatures.isEmpty then .error (.functionWithoutSignature name)
  else
    .ok { name, desc := .text desc, link := some link, signatures, mustUse := true, takesSelf }

end Function

namespace Constant

/-- A constant of exactly one specified type. -/
def make (name desc : Text) (spec : TypeSpec) : Except SpecError Constant := do
  match ← spec.toTypes with
  | [type] => return { name, desc := .text desc, type }
  | [] => .error .constantWithoutType
  | _ => .error .constantWithTypes

end Constant

end ScriptDefs
