import ScriptDefs.Catalogue.Basic
import ScriptDefs.Proofs.Data.Assoc
import ScriptDefs.Types.Builtin.Standard

/-!
# Definitions under their names

Catalogues and documents store every definition under a key and give it a name besides. Here is what
it means that all keys are the names of what they stand for, down to the last nested table, and that
the built-in definitions are of this kind.
-/

namespace ScriptDefs

namespace Assoc

variable {α β : Type}

/-- Everything in a map is stored under its name. -/
def Named (name : α → Text) (m : Assoc Text α) : Prop := ∀ e ∈ m, name e.2 = e.1

variable {name : α → Text} {m : Assoc Text α}

theorem Named.ofList {entries : List (Text × α)} (h : ∀ e ∈ entries, name e.2 = e.1) :
    Named name (Assoc.ofList entries) := fun e he ↦ h e (mem_of_mem_ofList he)

theorem Named.update (h : Named name m) {m' : Assoc Text α} (h' : Named name m') :
    Named name (Assoc.update m m') := fun e he ↦ (mem_of_mem_update he).elim (h e) (h' e)

/-- What is made of everything in a map keeps its name. -/
theorem Named.mapValues (h : Named name m) {name' : β → Text} (f : α → β)
    (hf : ∀ a, name' (f a) = name a) : Named name' (m.mapValues f) := by
  intro e he
  obtain ⟨d, hd, rfl⟩ := List.mem_map.mp he
  exact (hf d.2).trans (h d hd)

end Assoc

/-! ## Catalogues -/

/-- Everything in a catalogue is stored under its name. -/
structure Catalogue.NamedByKeys (c : Catalogue) : Prop where
  functions : Assoc.Named Function.name c.functions
  constants : Assoc.Named Constant.name c.constants
  events : Assoc.Named Event.name c.events
  types : Assoc.Named TypeNote.name c.types

/-! ## Documents -/

/-- The members of a class are stored under their names. -/
structure ValueClass.NamedByKeys (c : ValueClass) : Prop where
  funcs : Assoc.Named Function.name c.funcs
  props : Assoc.Named Constant.name c.props

mutual

/-- Everything inside a property is stored under its name. -/
def Property.NamedByKeys : Property → Prop
  | .constant _ | .function _ => True
  | .valueClass c => c.NamedByKeys
  | .table t => t.NamedByKeys

/-- Everything in a table is stored under its name, and so is everything inside of that. -/
def Table.NamedByKeys : Table → Prop
  | .mk _ props => Table.AllNamedByKeys props

/-- The entries of a table are stored under their names. -/
def Table.AllNamedByKeys : List (Text × Property) → Prop
  | [] => True
  | (key, p) :: rest => (p.name = key ∧ p.NamedByKeys) ∧ Table.AllNamedByKeys rest

end

theorem Table.allNamedByKeys_iff {props : List (Text × Property)} :
    Table.AllNamedByKeys props ↔
      Assoc.Named Property.name props ∧ ∀ e ∈ props, e.2.NamedByKeys := by
  induction props with
  | nil => simp [Table.AllNamedByKeys, Assoc.Named]
  | cons e props ih =>
    rw [Table.AllNamedByKeys, ih, Assoc.Named, Assoc.Named, List.forall_mem_cons,
      List.forall_mem_cons, and_and_and_comm]

theorem Table.namedByKeys_iff {t : Table} :
    t.NamedByKeys ↔ Assoc.Named Property.name t.props ∧ ∀ e ∈ t.props, e.2.NamedByKeys := by
  obtain ⟨name, props⟩ := t
  exact Table.allNamedByKeys_iff

/-- Everything in a document is stored under its name. -/
structure Document.NamedByKeys (d : Document) : Prop where
  globalTable : d.globalTable.NamedByKeys
  types : Assoc.Named Alias.name d.types
  classes : Assoc.Named ValueClass.name d.classes
  members : ∀ e ∈ d.classes, e.2.NamedByKeys
  events : Assoc.Named Event.name d.events

/-! ## Built-in definitions -/

/-- All built-in definitions are stored under their names. -/
structure Builtins.NamedByKeys (b : Builtins) : Prop where
  functions : Assoc.Named Function.name b.functions
  tables : Assoc.Named Table.name b.tables
  nested : ∀ e ∈ b.tables, e.2.NamedByKeys
  types : Assoc.Named Alias.name b.types
  classes : Assoc.Named ValueClass.name b.classes
  members : ∀ e ∈ b.classes, e.2.NamedByKeys

namespace Builtin

theorem byName_named (functions : List Function) :
    Assoc.Named Function.name (byName functions) := by
  intro e he
  obtain ⟨f, _, rfl⟩ := List.mem_map.mp he
  rfl

theorem axes_named (owner : String) (names : List String) :
    Assoc.Named Constant.name (axes owner names) := by
  intro e he
  obtain ⟨axis, _, rfl⟩ := List.mem_map.mp he
  rfl

theorem table_named (name : String) (constants : List Constant) (functions : List Function) :
    (table name constants functions).2.NamedByKeys := by
  refine Table.allNamedByKeys_iff.mpr ⟨fun e he ↦ ?_, fun e he ↦ ?_⟩
  all_goals
    rcases List.mem_append.mp he with he | he
    · obtain ⟨c, _, rfl⟩ := List.mem_map.mp he
      trivial
    · obtain ⟨f, _, rfl⟩ := List.mem_map.mp he
      trivial

end Builtin

/-- The standard built-in definitions are stored under their names. -/
theorem Builtins.standard_named : Builtins.standard.NamedByKeys where
  functions := Builtin.byName_named _
  tables := by
    show ∀ e ∈ [Builtin.bits, Builtin.json, Builtin.base64, Builtin.vector], e.2.name = e.1
    simp only [List.forall_mem_cons]
    exact ⟨rfl, rfl, rfl, rfl, nofun⟩
  nested := by
    show ∀ e ∈ [Builtin.bits, Builtin.json, Builtin.base64, Builtin.vector], e.2.NamedByKeys
    simp only [List.forall_mem_cons]
    exact ⟨Builtin.table_named _ _ _, Builtin.table_named _ _ _, Builtin.table_named _ _ _,
      Builtin.table_named _ _ _, nofun⟩
  types := by
    intro e he
    simp only [Builtins.standard, Builtin.types, List.mem_cons, List.not_mem_nil, or_false] at he
    rcases he with rfl | rfl | rfl <;> rfl
  classes := by
    intro e he
    obtain ⟨c, _, rfl⟩ := List.mem_map.mp he
    rfl
  members := by
    intro e he
    obtain ⟨c, hc, rfl⟩ := List.mem_map.mp he
    simp only [List.mem_cons, List.not_mem_nil, or_false] at hc
    rcases hc with rfl | rfl | rfl | rfl
    · refine ⟨Builtin.byName_named _, fun e he ↦ ?_⟩
      obtain rfl := List.mem_singleton.mp he
      rfl
    · exact ⟨Builtin.byName_named _, Builtin.axes_named _ _⟩
    · exact ⟨Builtin.byName_named _, Builtin.axes_named _ _⟩
    · exact ⟨Builtin.byName_named _, nofun⟩

end ScriptDefs
