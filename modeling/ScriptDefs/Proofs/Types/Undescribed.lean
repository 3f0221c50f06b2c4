import ScriptDefs.Types.Format

/-!
# Descriptions left out

A document with every description made empty, in its definitions and in the arguments and results of
its types. Descriptions are not shown where types, variables and signatures are printed.
-/

namespace ScriptDefs

mutual

/-- The type without descriptions. -/
def BaseType.withoutDescs : BaseType → BaseType
  | .simple s => .simple s
  | .literal v => .literal v
  | .custom name => .custom name
  | .function s => .function s.withoutDescs
  | .table elements => .table (BaseType.allWithoutDescs elements)

/-- Types without descriptions. -/
def BaseType.allWithoutDescs : List BaseType → List BaseType
  | [] => []
  | t :: rest => t.withoutDescs :: BaseType.allWithoutDescs rest

/-- The variable without a description. -/
def Variable.withoutDescs : Variable → Variable
  | .mk name _ types variadic optional =>
    .mk name (.text []) (BaseType.allWithoutDescs types) variadic optional

/-- Variables without descriptions. -/
def Variable.allWithoutDescs : List Variable → List Variable
  | [] => []
  | v :: rest => v.withoutDescs :: Variable.allWithoutDescs rest

/-- The signature without descriptions. -/
def Signature.withoutDescs : Signature → Signature
  | .mk args results => .mk (Variable.allWithoutDescs args) (Variable.allWithoutDescs results)

end

/-- The function without descriptions. -/
def Function.withoutDescs (f : Function) : Function :=
  { f with desc := .text [], signatures := f.signatures.map Signature.withoutDescs }

/-- The constant without a description. -/
def Constant.withoutDescs (c : Constant) : Constant :=
  { c with desc := .text [], type := c.type.withoutDescs }

/-- The value class without descriptions. -/
def ValueClass.withoutDescs (c : ValueClass) : ValueClass :=
  { c with
    funcs := c.funcs.mapValues Function.withoutDescs
    props := c.props.mapValues Constant.withoutDescs }

mutual

/-- The property without descriptions. -/
def Property.withoutDescs : Property → Property
  | .constant c => .constant c.withoutDescs
  | .function f => .function f.withoutDescs
  | .valueClass c => .valueClass c.withoutDescs
  | .table t => .table t.withoutDescs

/-- The table without descriptions. -/
def Table.withoutDescs : Table → Table
  | .mk name props => .mk name (Table.allWithoutDescs props)

/-- Properties without descriptions, under their keys. -/
def Table.allWithoutDescs : List (Text × Property) → List (Text × Property)
  | [] => []
  | (key, p) :: rest => (key, p.withoutDescs) :: Table.allWithoutDescs rest

end

/-- The named type without descriptions. -/
def Alias.withoutDescs (a : Alias) : Alias :=
  { a with desc := .text [], types := BaseType.allWithoutDescs a.types }

/-- The event without descriptions. -/
def Event.withoutDescs (e : Event) : Event :=
  { e with desc := .text [], args := Variable.allWithoutDescs e.args }

/-- The document without descriptions. -/
def Document.withoutDescs (d : Document) : Document where
  globalTable := d.globalTable.withoutDescs
  types := d.types.mapValues Alias.withoutDescs
  classes := d.classes.mapValues ValueClass.withoutDescs
  events := d.events.mapValues Event.withoutDescs

theorem Table.allWithoutDescs_eq_mapValues (props : List (Text × Property)) :
    Table.allWithoutDescs props = Assoc.mapValues Property.withoutDescs props := by
  induction props with
  | nil => rfl
  | cons e props ih =>
    rw [allWithoutDescs, ih]
    rfl

theorem Table.props_withoutDescs (t : Table) :
    t.withoutDescs.props = Assoc.mapValues Property.withoutDescs t.props := by
  obtain ⟨name, props⟩ := t
  exact allWithoutDescs_eq_mapValues props

/-! ## Printing -/

namespace BaseType

theorem isSimple_withoutDescs (s : SimpleType) (t : BaseType) :
    t.withoutDescs.isSimple s = t.isSimple s := by
  cases t <;> rfl

theorem length_allWithoutDescs (types : List BaseType) :
    (allWithoutDescs types).length = types.length := by
  induction types with
  | nil => rfl
  | cons t types ih => exact congrArg (· + 1) ih

theorem isIdentifierUnion_allWithoutDescs (types : List BaseType) :
    isIdentifierUnion (allWithoutDescs types) = isIdentifierUnion types := by
  match types with
  | [] | [_] | _ :: _ :: _ :: _ => rfl
  | [a, b] => simp [allWithoutDescs, isIdentifierUnion, isSimple_withoutDescs]

end BaseType

-- along the printers, which go through types, variables and signatures in the same way
mutual

theorem BaseType.format_withoutDescs : ∀ t : BaseType, t.withoutDescs.format = t.format
  | .simple _ | .literal _ | .custom _ => rfl
  | .function s => s.format_withoutDescs arrow false
  | .table elements => by
    rw [BaseType.withoutDescs, BaseType.format, BaseType.formatAll_withoutDescs elements,
      BaseType.format]

theorem BaseType.formatAll_withoutDescs : ∀ types : List BaseType,
    BaseType.formatAll (BaseType.allWithoutDescs types) = BaseType.formatAll types
  | [] => rfl
  | t :: rest => by
    rw [BaseType.allWithoutDescs, BaseType.formatAll, t.format_withoutDescs,
      BaseType.formatAll_withoutDescs rest, BaseType.formatAll]

theorem Variable.format_withoutDescs : ∀ (v : Variable) (cleanup : Bool),
    v.withoutDescs.format cleanup = v.format cleanup
  | .mk _ _ types _ _, cleanup => by
    rw [Variable.withoutDescs, Variable.format, BaseType.formatAll_withoutDescs types,
      BaseType.isIdentifierUnion_allWithoutDescs, BaseType.length_allWithoutDescs,
      Variable.format]

theorem Variable.formatAll_withoutDescs : ∀ (vs : List Variable) (cleanup : Bool),
    Variable.formatAll cleanup (Variable.allWithoutDescs vs) = Variable.formatAll cleanup vs
  | [], _ => rfl
  | v :: rest, cleanup => by
    rw [Variable.allWithoutDescs, Variable.formatAll, v.format_withoutDescs,
      Variable.formatAll_withoutDescs rest, Variable.formatAll]

theorem Signature.format_withoutDescs : ∀ (s : Signature) (separator : Text) (cleanup : Bool),
    s.withoutDescs.format separator cleanup = s.format separator cleanup
  | .mk args results, separator, cleanup => by
    rw [Signature.withoutDescs, Signature.format, Variable.formatAll_withoutDescs args,
      Variable.formatAll_withoutDescs results, Signature.format]

end

theorem BaseType.formatUnion_withoutDescs (types : List BaseType) :
    BaseType.formatUnion (BaseType.allWithoutDescs types) = BaseType.formatUnion types := by
  rw [formatUnion, formatAll_withoutDescs, formatUnion]

theorem Variable.formatList_withoutDescs (cleanup : Bool) (vs : List Variable) :
    Variable.formatList cleanup (Variable.allWithoutDescs vs) = Variable.formatList cleanup vs := by
  rw [formatList, formatAll_withoutDescs, formatList]

end ScriptDefs
