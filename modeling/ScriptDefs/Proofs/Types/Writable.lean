import ScriptDefs.Proofs.Data.JsonForm
import ScriptDefs.Types.Plain
import ScriptDefs.Types.Sample

/-!
# Types that can be written

A literal type is written as its value, so a type cannot be written if it shows an integer with more digits
than are converted. That no literal in a type is such an integer is asked of all that is printed: types,
variables and signatures in declarations and snippets, and what a sample shows of its arguments.
-/

namespace ScriptDefs

/-- The literal is no integer with too many digits. -/
def Literal.IsWritable (v : Literal) : Prop := v.toDatum.isWritable = true

mutual

/-- No literal in the type is an integer with too many digits. -/
def BaseType.IsWritable : BaseType → Prop
  | .simple _ | .custom _ => True
  | .literal v => v.IsWritable
  | .function s => s.IsWritable
  | .table elements => BaseType.AllWritable elements

/-- No literal in the types is an integer with too many digits. -/
def BaseType.AllWritable : List BaseType → Prop
  | [] => True
  | t :: rest => t.IsWritable ∧ BaseType.AllWritable rest

/-- No literal in the types of the variable is an integer with too many digits. -/
def Variable.IsWritable : Variable → Prop
  | .mk _ _ types _ _ => BaseType.AllWritable types

/-- No literal in the types of the variables is an integer with too many digits. -/
def Variable.AllWritable : List Variable → Prop
  | [] => True
  | v :: rest => v.IsWritable ∧ Variable.AllWritable rest

/-- No literal in the types of the signature is an integer with too many digits. -/
def Signature.IsWritable : Signature → Prop
  | .mk args results => Variable.AllWritable args ∧ Variable.AllWritable results

end

theorem BaseType.allWritable_iff {types : List BaseType} :
    BaseType.AllWritable types ↔ ∀ t ∈ types, t.IsWritable := by
  induction types with
  | nil => simp [BaseType.AllWritable]
  | cons t types ih => rw [BaseType.AllWritable, ih, List.forall_mem_cons]

theorem Variable.allWritable_iff {vs : List Variable} :
    Variable.AllWritable vs ↔ ∀ v ∈ vs, v.IsWritable := by
  induction vs with
  | nil => simp [Variable.AllWritable]
  | cons v vs ih => rw [Variable.AllWritable, ih, List.forall_mem_cons]

/-- Naming the arguments changes no types. -/
theorem Signature.isWritable_withNames {s : Signature} : s.withNames.IsWritable ↔ s.IsWritable := by
  obtain ⟨args, results⟩ := s
  refine and_congr_left' ?_
  rw [Variable.allWritable_iff, Variable.allWritable_iff, List.forall_mem_map]
  refine forall₂_congr fun a _ ↦ ?_
  obtain ⟨name, desc, types, variadic, optional⟩ := a
  split <;> exact Iff.rfl

/-! ## Definitions -/

/-- No literal in the signatures of the function is an integer with too many digits. -/
def Function.IsWritable (f : Function) : Prop := ∀ s ∈ f.signatures, s.IsWritable

/-- No literal in the types of the members is an integer with too many digits. -/
structure ValueClass.IsWritable (c : ValueClass) : Prop where
  props : ∀ e ∈ c.props, e.2.type.IsWritable
  funcs : ∀ e ∈ c.funcs, e.2.IsWritable

mutual

/-- No literal in the types that the property is declared with is an integer with too many digits. A
value class in a table is declared by its name alone. -/
def Property.IsWritable : Property → Prop
  | .constant c => c.type.IsWritable
  | .function f => f.IsWritable
  | .valueClass _ => True
  | .table t => t.IsWritable

/-- No literal in the types of the table is an integer with too many digits. -/
def Table.IsWritable : Table → Prop
  | .mk _ props => Table.AllWritable props

/-- No literal in the types of the properties is an integer with too many digits. -/
def Table.AllWritable : List (Text × Property) → Prop
  | [] => True
  | (_, p) :: rest => p.IsWritable ∧ Table.AllWritable rest

end

/-- No literal in a declared type of the document is an integer with too many digits. -/
structure Document.IsDeclarable (d : Document) : Prop where
  globalTable : d.globalTable.IsWritable
  types : ∀ e ∈ d.types, BaseType.AllWritable e.2.types
  classes : ∀ e ∈ d.classes, e.2.IsWritable

theorem Table.allWritable_iff {props : List (Text × Property)} :
    Table.AllWritable props ↔ ∀ e ∈ props, e.2.IsWritable := by
  induction props with
  | nil => simp [Table.AllWritable]
  | cons e props ih => rw [Table.AllWritable, ih, List.forall_mem_cons]

theorem Table.isWritable_iff {t : Table} : t.IsWritable ↔ ∀ e ∈ t.props, e.2.IsWritable := by
  obtain ⟨name, props⟩ := t
  exact Table.allWritable_iff

/-! ## Plain forms -/

open Datum (inherited_isWritable)

-- along types, variables and signatures
mutual

theorem BaseType.isWritable_of_toDatum : ∀ t : BaseType, t.toDatum.isWritable = true → t.IsWritable
  | .simple _, _ | .custom _, _ => trivial
  | .literal v, h => (inherited_isWritable.object.mp h ("value", v.toDatum) (by simp)).2
  | .function s, h =>
    Signature.isWritable_of_toDatum s (inherited_isWritable.object.mp h ("value", s.toDatum) (by simp)).2
  | .table elements, h =>
    BaseType.allWritable_of_toData elements ((inherited_isWritable.list _).mp
      (inherited_isWritable.object.mp h ("value", .list (BaseType.toData elements)) (by simp)).2)

theorem BaseType.allWritable_of_toData : ∀ types : List BaseType,
    (∀ d ∈ BaseType.toData types, d.isWritable = true) → BaseType.AllWritable types
  | [], _ => trivial
  | t :: rest, h =>
    ⟨BaseType.isWritable_of_toDatum t (h _ List.mem_cons_self),
      BaseType.allWritable_of_toData rest fun d hd ↦ h d (List.mem_cons_of_mem _ hd)⟩

theorem Variable.isWritable_of_toDatum : ∀ (v : Variable) (kind : Text),
    (v.toDatum kind).isWritable = true → v.IsWritable
  | .mk _ _ types _ _, _, h =>
    BaseType.allWritable_of_toData types ((inherited_isWritable.list _).mp
      (inherited_isWritable.object.mp h ("type", .list (BaseType.toData types)) (by simp)).2)

theorem Variable.allWritable_of_toData : ∀ (vs : List Variable) (kind : Text),
    (∀ d ∈ Variable.toData kind vs, d.isWritable = true) → Variable.AllWritable vs
  | [], _, _ => trivial
  | v :: rest, kind, h =>
    ⟨Variable.isWritable_of_toDatum v kind (h _ List.mem_cons_self),
      Variable.allWritable_of_toData rest kind fun d hd ↦ h d (List.mem_cons_of_mem _ hd)⟩

theorem Signature.isWritable_of_toDatum : ∀ s : Signature, s.toDatum.isWritable = true → s.IsWritable
  | .mk args results, h => by
    have hfields := inherited_isWritable.object.mp h
    exact ⟨
      Variable.allWritable_of_toData args "arg" ((inherited_isWritable.list _).mp
        (hfields ("args", .list (Variable.toData "arg" args)) (by simp)).2),
      Variable.allWritable_of_toData results "result" ((inherited_isWritable.list _).mp
        (hfields ("result", .list (Variable.toData "result" results)) (by simp)).2)⟩

end

theorem Function.isWritable_of_toDatum {f : Function} (h : f.toDatum.isWritable = true) :
    f.IsWritable := by
  have hsignatures := (inherited_isWritable.object.mp h
    ("signatures", .list (f.signatures.map Signature.toDatum)) (by simp)).2
  intro s hs
  exact s.isWritable_of_toDatum (inherited_isWritable.list_map.mp hsignatures s hs)

theorem Constant.isWritable_type_of_toDatum {c : Constant} (h : c.toDatum.isWritable = true) :
    c.type.IsWritable :=
  c.type.isWritable_of_toDatum (inherited_isWritable.object.mp h ("type", c.type.toDatum) (by simp)).2

theorem ValueClass.isWritable_of_toDatum {c : ValueClass} (h : c.toDatum.isWritable = true) :
    c.IsWritable := by
  have hfields := inherited_isWritable.object.mp h
  have hfuncs := inherited_isWritable.object_mapValues.mp
    (hfields ("funcs", .object (c.funcs.mapValues Function.toDatum)) (by simp)).2
  have hprops := inherited_isWritable.object_mapValues.mp
    (hfields ("props", .object (c.props.mapValues Constant.toDatum)) (by simp)).2
  exact ⟨fun e he ↦ Constant.isWritable_type_of_toDatum (hprops e he).2,
    fun e he ↦ Function.isWritable_of_toDatum (hfuncs e he).2⟩

mutual

theorem Property.isWritable_of_toDatum : ∀ p : Property, p.toDatum.isWritable = true → p.IsWritable
  | .constant _, h => Constant.isWritable_type_of_toDatum h
  | .function _, h => Function.isWritable_of_toDatum h
  | .valueClass _, _ => trivial
  | .table t, h => Table.isWritable_of_toDatum t h

theorem Table.isWritable_of_toDatum : ∀ t : Table, t.toDatum.isWritable = true → t.IsWritable
  | .mk _ props, h => Table.allWritable_of_toFields props ((inherited_isWritable.map _).mp
      (inherited_isWritable.object.mp h ("props", .map (Table.toFields props)) (by simp)).2)

theorem Table.allWritable_of_toFields : ∀ props : List (Text × Property),
    (∀ e ∈ Table.toFields props, (Datum.scalar e.1).isWritable = true ∧ e.2.isWritable = true) →
    Table.AllWritable props
  | [], _ => trivial
  | (_, p) :: rest, h =>
    ⟨Property.isWritable_of_toDatum p (h _ List.mem_cons_self).2,
      Table.allWritable_of_toFields rest fun e he ↦ h e (List.mem_cons_of_mem _ he)⟩

end

theorem Alias.allWritable_of_toDatum {a : Alias} (h : a.toDatum.isWritable = true) :
    BaseType.AllWritable a.types :=
  BaseType.allWritable_of_toData a.types ((inherited_isWritable.list _).mp
    (inherited_isWritable.object.mp h ("type", .list (BaseType.toData a.types)) (by simp)).2)

theorem Event.allWritable_of_toDatum {e : Event} (h : e.toDatum.isWritable = true) :
    Variable.AllWritable e.args :=
  Variable.allWritable_of_toData e.args "arg" ((inherited_isWritable.list _).mp
    (inherited_isWritable.object.mp h ("args", .list (Variable.toData "arg" e.args)) (by simp)).2)

section Documents

variable {d : Document} (h : d.toDatum.isWritable = true)
include h

theorem Document.allWritable_types : ∀ e ∈ d.types, BaseType.AllWritable e.2.types := by
  have htypes := (inherited_isWritable.object.mp h
    ("types", .object (d.types.mapValues Alias.toDatum)) (by simp)).2
  exact fun e he ↦
    Alias.allWritable_of_toDatum (inherited_isWritable.object_mapValues.mp htypes e he).2

theorem Document.allWritable_events : ∀ e ∈ d.events, Variable.AllWritable e.2.args := by
  have hevents := (inherited_isWritable.object.mp h
    ("events", .object (d.events.mapValues Event.toDatum)) (by simp)).2
  exact fun e he ↦
    Event.allWritable_of_toDatum (inherited_isWritable.object_mapValues.mp hevents e he).2

/-- A document whose plain form can be written can be declared. -/
theorem Document.isDeclarable_of_toDatum : d.IsDeclarable where
  globalTable := Table.isWritable_of_toDatum d.globalTable
    (inherited_isWritable.object.mp h ("global", d.globalTable.toDatum) (by simp)).2
  types := Document.allWritable_types h
  classes e he := ValueClass.isWritable_of_toDatum (inherited_isWritable.object_mapValues.mp
    (inherited_isWritable.object.mp h
      ("classes", .object (d.classes.mapValues ValueClass.toDatum)) (by simp)).2 e he).2

end Documents

/-! ## Samples -/

/-- What a sample shows of a type that is no reference: a literal, or the signature of a function. -/
def BaseType.IsShown : BaseType → Prop
  | .literal v => v.IsWritable
  | .function s => s.IsWritable
  | .simple _ | .custom _ | .table _ => True

/-- What a sample shows of a type; a reference is shown as the first type that it stands for. -/
def Sample.IsShown (types : Assoc Text Alias) : BaseType → Prop
  | .custom name => ∀ a, types.lookup name = some a → ∀ t, a.types.head? = some t → t.IsShown
  | t => t.IsShown

/-- In no candidate for the preferred sample an argument is shown with an integer that has too many
digits. -/
def Function.ShowsWritable (types : Assoc Text Alias) (f : Function) : Prop :=
  ∀ candidate ∈ f.sampleCandidates, ∀ s, f.signatures[candidate.1]? = some s →
    ∀ a ∈ s.args, ∀ t, Sample.pick a.types candidate.2 = some t → Sample.IsShown types t

end ScriptDefs
