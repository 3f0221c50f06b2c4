import ScriptDefs.Proofs.Data.Fields
import ScriptDefs.Types.Basic

/-!
# Well-formed documents

What the parts of a document have to satisfy beyond their types: variables and named types have at
least one type, functions at least one signature, costs and values of constants are of the kinds
that these have. Descriptions and the names of variables are data that documents take over as they
are given; what is asked of them is a parameter.
-/

namespace ScriptDefs

variable (given : Datum → Prop)

mutual

/-- A type is well-formed when all variables in it are. -/
def BaseType.WellFormed : BaseType → Prop
  | .simple _ | .literal _ | .custom _ => True
  | .function s => s.WellFormed
  | .table elements => BaseType.AllWellFormed elements

/-- All types of a list are well-formed. -/
def BaseType.AllWellFormed : List BaseType → Prop
  | [] => True
  | t :: rest => t.WellFormed ∧ BaseType.AllWellFormed rest

/-- A variable has at least one type. -/
def Variable.WellFormed : Variable → Prop
  | .mk name desc types _ _ =>
    given name ∧ given desc ∧ types ≠ [] ∧ BaseType.AllWellFormed types

/-- All variables of a list are well-formed. -/
def Variable.AllWellFormed : List Variable → Prop
  | [] => True
  | v :: rest => v.WellFormed ∧ Variable.AllWellFormed rest

/-- The arguments and the results of a signature are well-formed. -/
def Signature.WellFormed : Signature → Prop
  | .mk args results => Variable.AllWellFormed args ∧ Variable.AllWellFormed results

end

/-- A function has at least one signature; its costs are numbers or null. -/
structure Function.WellFormed (f : Function) : Prop where
  desc : given f.desc
  signatures_ne : f.signatures ≠ []
  signatures : ∀ s ∈ f.signatures, s.WellFormed given
  energy : f.energy.IsCost
  sleep : f.sleep.IsCost

/-- The value of a constant is a number, a text or null. -/
structure Constant.WellFormed (c : Constant) : Prop where
  desc : given c.desc
  type : c.type.WellFormed given
  value : c.value.IsConstantValue

/-- All members of a value class are well-formed. -/
structure ValueClass.WellFormed (c : ValueClass) : Prop where
  funcs : ∀ e ∈ c.funcs, e.2.WellFormed given
  props : ∀ e ∈ c.props, e.2.WellFormed given

mutual

/-- A property is well-formed as the definition that it is. -/
def Property.WellFormed : Property → Prop
  | .constant c => c.WellFormed given
  | .function f => f.WellFormed given
  | .valueClass c => c.WellFormed given
  | .table t => t.WellFormed

/-- All properties of a table are well-formed. -/
def Table.WellFormed : Table → Prop
  | .mk _ props => Table.AllWellFormed props

/-- All properties of a list of entries are well-formed. -/
def Table.AllWellFormed : List (Text × Property) → Prop
  | [] => True
  | (_, p) :: rest => p.WellFormed ∧ Table.AllWellFormed rest

end

/-- The arguments of an event are well-formed. -/
structure Event.WellFormed (e : Event) : Prop where
  desc : given e.desc
  args : Variable.AllWellFormed given e.args

/-- A named type stands for at least one type. -/
structure Alias.WellFormed (a : Alias) : Prop where
  desc : given a.desc
  types_ne : a.types ≠ []
  types : BaseType.AllWellFormed given a.types

/-- All definitions of a document are well-formed. -/
structure Document.WellFormed (d : Document) : Prop where
  globalTable : d.globalTable.WellFormed given
  types : ∀ e ∈ d.types, e.2.WellFormed given
  classes : ∀ e ∈ d.classes, e.2.WellFormed given
  events : ∀ e ∈ d.events, e.2.WellFormed given

/-! ## Lists -/

variable {given}

theorem Table.allWellFormed_iff {props : List (Text × Property)} :
    Table.AllWellFormed given props ↔ ∀ e ∈ props, e.2.WellFormed given := by
  induction props with
  | nil => simp [Table.AllWellFormed]
  | cons e props ih => rw [Table.AllWellFormed, ih, List.forall_mem_cons]

theorem Table.wellFormed_iff {t : Table} :
    t.WellFormed given ↔ ∀ e ∈ t.props, e.2.WellFormed given := by
  obtain ⟨name, props⟩ := t
  exact Table.allWellFormed_iff

theorem BaseType.allWellFormed_iff {types : List BaseType} :
    BaseType.AllWellFormed given types ↔ ∀ t ∈ types, t.WellFormed given := by
  induction types with
  | nil => simp [BaseType.AllWellFormed]
  | cons t types ih => rw [BaseType.AllWellFormed, ih, List.forall_mem_cons]

theorem Variable.allWellFormed_iff {vs : List Variable} :
    Variable.AllWellFormed given vs ↔ ∀ v ∈ vs, v.WellFormed given := by
  induction vs with
  | nil => simp [Variable.AllWellFormed]
  | cons v vs ih => rw [Variable.AllWellFormed, ih, List.forall_mem_cons]

end ScriptDefs
