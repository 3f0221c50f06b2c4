import ScriptDefs.Data.Basic
import ScriptDefs.Number.Notation
import ScriptDefs.Text.Quoted

/-!
# Values in messages

How a value is shown in running text: lists between brackets, pairs between parentheses, maps and sets
between braces, texts in quotes unless they stand alone. A collection inside itself is shown by dots. Where
a value can come from any input, integers with too many digits are refused.
-/

namespace ScriptDefs

/-- The name of a kind of value in messages. -/
def DatumKind.name : DatumKind → Text
  | .null => "NoneType"
  | .bool => "bool"
  | .int => "int"
  | .float => "float"
  | .text => "str"
  | .date => "date"
  | .moment => "datetime"
  | .bytes => "bytes"
  | .list => "list"
  | .pair => "tuple"
  | .set => "set"
  | .map => "dict"

namespace Scalar

/-- The scalar as an expression, texts in quotes. -/
def expression : Scalar → Text
  | .null => "None"
  | .bool b => if b then "True" else "False"
  | .int n => Text.ofInt n
  | .float x => x.toText Binary64.plainNames
  | .text t => t.quoted
  | .date d => d.toExpression
  | .moment m => m.toExpression
  | .bytes b => Text.quotedBytes b

/-- The scalar as running text. -/
def display : Scalar → Text
  | .text t => t
  | .date d => d.toText
  | .moment m => m.toText
  | s => s.expression

/-- The scalar is no integer with too many digits. -/
def isWritable : Scalar → Bool
  | .int n => n.natAbs < Nat.pow 10 DigitLimit.limit
  | _ => true

end Scalar

namespace Datum

/-- Dots that stand for a collection of a kind inside itself. -/
def elision (kind : DatumKind) : Text :=
  if kind = .map then "\x7b...\x7d" else "[...]"

mutual

/-- The value as an expression; the collections with the labels in `active` are around it. -/
def expressionIn (active : List Nat) : Datum → Text
  | .scalar s => s.expression
  | .list items => .scalar '[' :: Text.joinWith ", " (itemExpressions active items) ++ [.scalar ']']
  | .pair first second =>
    .scalar '(' :: expressionIn active first ++ Text.ofString ", " ++ expressionIn active second ++
      [.scalar ')']
  | .set members =>
    if members.isEmpty then "set()"
    else .scalar '\x7b' :: Text.joinWith ", " (members.map Scalar.expression) ++ [.scalar '\x7d']
  | .map entries =>
    .scalar '\x7b' :: Text.joinWith ", " (entryExpressions active entries) ++ [.scalar '\x7d']
  | .knot label body =>
    if active.contains label then elision body.kind else expressionIn (label :: active) body
  | .again _ kind => elision kind

/-- The items of a list as expressions. -/
def itemExpressions (active : List Nat) : List Datum → List Text
  | [] => []
  | d :: rest => expressionIn active d :: itemExpressions active rest

/-- The entries of a map as expressions, a colon after each key. -/
def entryExpressions (active : List Nat) : List (Scalar × Datum) → List Text
  | [] => []
  | (k, v) :: rest =>
    (k.expression ++ Text.ofString ": " ++ expressionIn active v) :: entryExpressions active rest

end

/-- The value as an expression. -/
def expression (d : Datum) : Text := d.expressionIn []

/-- The value as running text. -/
def display : Datum → Text
  | .scalar s => s.display
  | d => d.expression

mutual

/-- No integer in the value has too many digits. -/
def isWritable : Datum → Bool
  | .scalar s => s.isWritable
  | .list items => areWritable items
  | .pair first second => isWritable first && isWritable second
  | .set members => members.all Scalar.isWritable
  | .map entries => entriesAreWritable entries
  | .knot _ body => isWritable body
  | .again _ _ => true

/-- No integer in the values has too many digits. -/
def areWritable : List Datum → Bool
  | [] => true
  | d :: rest => isWritable d && areWritable rest

/-- No integer in the entries has too many digits. -/
def entriesAreWritable : List (Scalar × Datum) → Bool
  | [] => true
  | (k, v) :: rest => k.isWritable && isWritable v && entriesAreWritable rest

end

/-- The value as an expression, unless an integer in it has too many digits. -/
def expression? (d : Datum) : Except DigitLimit Text :=
  if d.isWritable then .ok d.expression else .error .writing

/-- The value as running text, unless an integer in it has too many digits. -/
def display? (d : Datum) : Except DigitLimit Text :=
  if d.isWritable then .ok d.display else .error .writing

end Datum

end ScriptDefs
