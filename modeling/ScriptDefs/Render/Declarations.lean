import ScriptDefs.Render.Basic

/-!
# Declarations

The declarations of named types, classes and the global table for a type checker. A description becomes a
comment at the end of the line it belongs to.
-/

namespace ScriptDefs

namespace Render

/-- The lines at the start of the declarations. -/
def header : Text :=
  Text.ofString ("\n----------------------------------\n" ++
    "---------- LSL LUAU DEFS ---------\n----------------------------------\n\n")

/-- The indentation of a level of nesting. -/
def indent (depth : Nat) : Text := List.replicate (2 * depth) (.scalar ' ')

/-- A description as a comment on one line; an empty one is left out. -/
def comment (desc : Datum) : Except RenderError Text :=
  if desc.isTruthy then
    match desc with
    | .text t => .ok (Text.ofString " -- " ++ Text.replaceAll "\n" " " t)
    | d => .error (.notADescription d)
  else .ok []

/-- The signatures of a function as one type. -/
def overloads (f : Function) : Except RenderError Text := do
  match ← ofFormat (f.signatures.mapM fun s ↦ s.format arrow false) with
  | [one] => return one
  | many => return .scalar '(' :: Text.joinWith ") & (" many ++ [.scalar ')']

/-- The arguments and results of a signature as they are declared. -/
def declaredSignature (s : Signature) : Except RenderError Text := do
  let args ← ofFormat (Variable.formatList false s.args)
  let results ← ofFormat (Variable.formatList false s.results)
  return .scalar '(' :: args ++ Text.ofString "): " ++ results

/-- The declaration of a named type. -/
def aliasLine (a : Alias) : Except RenderError Text := do
  return Text.ofString "type " ++ a.name ++ Text.ofString " = " ++
    (← ofFormat (BaseType.formatUnion a.types))

/-- The declarations of named types. -/
def aliases (types : Assoc Text Alias) : Except RenderError Text := do
  return Text.joinWith "\n" (← types.values.mapM aliasLine) ++ [.scalar '\n']

/-- The line of a property of a class. -/
def classProperty (c : Constant) : Except RenderError Text := do
  let type ← ofFormat c.type.format
  return indent 1 ++ c.name ++ Text.ofString " : " ++ type ++ (← comment c.desc) ++
    [.scalar '\n']

/-- The lines of a function of a class, one for each signature. -/
def classFunction (f : Function) : Except RenderError Text := do
  let lines ← f.signatures.mapM fun s ↦ do
    let declared ← declaredSignature s
    return indent 1 ++ Text.ofString "function " ++ f.name ++ declared ++ (← comment f.desc) ++
      [CodePoint.scalar '\n']
  return Text.concat lines

/-- The declaration of a class. -/
def valueClass (c : ValueClass) : Except RenderError Text := do
  let props ← c.props.values.mapM classProperty
  let funcs ← c.funcs.values.mapM classFunction
  return Text.ofString "declare class " ++ c.name ++ .scalar '\n' :: Text.concat props ++
    Text.concat funcs ++ Text.ofString "end\n\n"

/-- The declarations of classes. -/
def classes (cs : Assoc Text ValueClass) : Except RenderError Text := do
  return Text.concat (← cs.values.mapM valueClass)

mutual

/-- The type of a table: its properties in the order of their keys, each on a line of its own. -/
def tableBody (depth : Nat) : Table → Except RenderError Text
  | .mk _ props => do
    let lines ← (Assoc.sorted (propertyLines (depth + 1) props)).mapM (·.2)
    return Text.ofString "\x7b\n" ++ Text.joinWith "\n" lines ++ .scalar '\n' :: indent depth ++
      [.scalar '\x7d']

/-- The lines of properties under their keys. -/
def propertyLines (depth : Nat) :
    List (Text × Property) → List (Text × Except RenderError Text)
  | [] => []
  | (key, p) :: rest => (key, propertyLine depth key p) :: propertyLines depth rest

/-- The line of a property inside a table. -/
def propertyLine (depth : Nat) (key : Text) : Property → Except RenderError Text
  | .constant c => do
    let type ← ofFormat c.type.format
    return indent depth ++ key ++ Text.ofString ": " ++ type ++ .scalar ',' :: (← comment c.desc)
  | .function f => do
    let type ← overloads f
    return indent depth ++ key ++ Text.ofString ": " ++ type ++ .scalar ',' :: (← comment f.desc)
  | .table t => do
    return indent depth ++ key ++ Text.ofString ": " ++ (← tableBody depth t) ++ [.scalar ',']
  | .valueClass c =>
    .ok (indent depth ++ key ++ Text.ofString ": " ++ c.name ++ [.scalar ','])

end

/-- The declaration of a property of the global table. -/
def globalProperty (key : Text) : Property → Except RenderError Text
  | .constant c => do
    let type ← ofFormat c.type.format
    return Text.ofString "declare " ++ c.name ++ Text.ofString " : " ++ type ++
      (← comment c.desc) ++ [.scalar '\n']
  | .function f =>
    match f.signatures with
    | [s] => do
      let declared ← declaredSignature s
      return Text.ofString "declare function " ++ f.name ++ declared ++ (← comment f.desc) ++
        [.scalar '\n']
    | _ => do
      let type ← overloads f
      return Text.ofString "declare " ++ f.name ++ Text.ofString ": " ++ type ++
        (← comment f.desc) ++ [.scalar '\n']
  | .table t => do
    return Text.ofString "\n---------------------------\n-- Global Table: " ++ t.name ++
      Text.ofString "\n---------------------------\n\ndeclare " ++ key ++ Text.ofString ": " ++
      (← tableBody 0 t) ++ Text.ofString "\n\n"
  | .valueClass c =>
    .ok (Text.ofString "declare " ++ key ++ Text.ofString ": " ++ c.name ++ [.scalar '\n'])

/-- The declarations of the properties of the global table. -/
def globals (props : Assoc Text Property) : Except RenderError Text := do
  return Text.concat (← props.mapM fun p ↦ globalProperty p.1 p.2)

end Render

/-- The declarations of a document. -/
def Document.declarations (d : Document) : Except RenderError Text := do
  let aliases ← Render.aliases d.types
  let classes ← Render.classes d.classes
  let globals ← Render.globals d.globalTable.props
  return Render.header ++ aliases ++ Text.ofString "\n\n" ++ classes ++ Text.ofString "\n\n" ++
    globals

end ScriptDefs
