import ScriptDefs.Data.Display
import ScriptDefs.Types.Basic

/-!
# Printed types

The text of types, variables and signatures in declarations and documentation. The type `self` is never
printed for a variable. Names are plain data; one that is no text cannot stand alone in a list. An
integer with too many digits, as a literal or in a name, cannot be printed.
-/

namespace ScriptDefs

/-- Why a type, a variable or a signature cannot be printed. -/
inductive FormatError where
  /-- A value that is no text stands where texts are joined. -/
  | notText (found : Datum)
  | digitLimit (e : DigitLimit)
  deriving Repr

/-- The value as a text to be joined with others. -/
def Datum.asText : Datum → Except FormatError Text
  | .text t => .ok t
  | d => .error (.notText d)

/-- Values with commas between them; all have to be texts. -/
def Datum.commaSeparated (ds : List Datum) : Except FormatError Text := do
  return Text.joinWith ", " (← ds.mapM Datum.asText)

/-- The value as running text inside a printed one. -/
def Datum.inText (d : Datum) : Except FormatError Text := d.display?.mapError .digitLimit

/-- A literal as it is written in types and samples. -/
def Literal.display : Literal → Except FormatError Text
  | .text t => .ok t
  | .int n => (DigitLimit.integerText n).mapError .digitLimit
  | .float x => .ok (x.toText Binary64.plainNames)

namespace BaseType

/-- The type is a certain simple type. -/
def isSimple (s : SimpleType) : BaseType → Bool
  | .simple t => s = t
  | _ => false

/-- The types are an identifier and a string, in either order. -/
def isIdentifierUnion : List BaseType → Bool
  | [a, b] => (a.isSimple .uuid && b.isSimple .string) || (a.isSimple .string && b.isSimple .uuid)
  | _ => false

/-- The types as they are displayed: the union of identifier and string is an identifier. -/
def cleaned (types : List BaseType) : List BaseType :=
  if isIdentifierUnion types then [.simple .uuid] else types

end BaseType

namespace Variable

/-- The types of a variable with the marks for several, for none and for any number of values. -/
def markedTypes (shown : List Text) (several variadic optional : Bool) : Text :=
  let text := Text.joinWith "|" (shown.filter (· ≠ Text.ofString "self"))
  if variadic || optional then
    let grouped := if several then .scalar '(' :: text ++ [.scalar ')'] else text
    let dotted := if variadic then Text.ofString "..." ++ grouped else grouped
    if optional then dotted ++ [.scalar '?'] else dotted
  else text

/-- A name before the types; without types the name stands alone, as it is given. -/
def named (name : Datum) (types : Text) (variadic : Bool) : Except FormatError Datum :=
  if name.isTruthy && !variadic then
    if types.isEmpty then .ok name
    else do return .text ((← name.inText) ++ Text.ofString ": " ++ types)
  else .ok (.text types)

end Variable

/-- What separates the arguments of a signature from its results, unless told otherwise. -/
def arrow : Text := " -> "

mutual

/-- The text of a type. -/
def BaseType.format : BaseType → Except FormatError Text
  | .simple s => .ok s.name
  | .custom name => .ok name
  | .literal v => v.display
  | .function s => Signature.format arrow false s
  | .table elements => do
    return .scalar '\x7b' :: Text.joinWith "|" (← BaseType.formatAll elements) ++ [.scalar '\x7d']

/-- The texts of types. -/
def BaseType.formatAll : List BaseType → Except FormatError (List Text)
  | [] => .ok []
  | t :: rest => do return (← BaseType.format t) :: (← BaseType.formatAll rest)

/-- The text of a variable: `name: a|b`, `...(a|b)`, `name: a?`. With `cleanup` the types are as they
are displayed. -/
def Variable.format (cleanup : Bool) : Variable → Except FormatError Datum
  | .mk name _ types variadic optional => do
    let texts ← BaseType.formatAll types
    let shown := if cleanup && BaseType.isIdentifierUnion types then [SimpleType.uuid.name] else texts
    Variable.named name (Variable.markedTypes shown (1 < types.length) variadic optional) variadic

/-- The texts of variables. -/
def Variable.formatAll (cleanup : Bool) : List Variable → Except FormatError (List Datum)
  | [] => .ok []
  | v :: rest => do return (← Variable.format cleanup v) :: (← Variable.formatAll cleanup rest)

/-- The text of a signature with a separator between arguments and results. -/
def Signature.format (separator : Text) (cleanup : Bool) : Signature → Except FormatError Text
  | .mk args results => do
    let args ← Datum.commaSeparated (← Variable.formatAll cleanup args)
    let results ← Datum.commaSeparated (← Variable.formatAll false results)
    return .scalar '(' :: args ++ .scalar ')' :: separator ++ results

end

/-- Variables with commas between them. -/
def Variable.formatList (cleanup : Bool) (vs : List Variable) : Except FormatError Text := do
  Datum.commaSeparated (← Variable.formatAll cleanup vs)

/-- Types with bars between them. -/
def BaseType.formatUnion (types : List BaseType) : Except FormatError Text := do
  return Text.joinWith "|" (← BaseType.formatAll types)

/-- The name of an argument that has none. -/
def unnamedArgument : Datum := .text "arg"

/-- The signature with every argument named. -/
def Signature.withNames (s : Signature) : Signature :=
  .mk (s.args.map fun a ↦ if a.name.isTruthy then a else a.rename unnamedArgument) s.results

/-- What binds a function to a local name, unless the name is empty. -/
def bindingTo (name : Datum) : Except FormatError Text :=
  if name.isTruthy then do
    return Text.ofString "local " ++ (← name.inText) ++ Text.ofString " = "
  else .ok []

/-- A function of a signature with nothing in its body, bound to a local name unless that is empty. -/
def Signature.stub (s : Signature) (name : Datum) : Except FormatError Text := do
  let head ← bindingTo name
  let named := s.withNames
  return head ++ Text.ofString "function(" ++ (← Variable.formatList true named.args) ++
    Text.ofString ") : " ++ (← Variable.formatList false named.results) ++
    Text.ofString "\n  -- Your code\nend"

end ScriptDefs
