import ScriptDefs.Proofs.Data.Fields
import ScriptDefs.Types.Reading

/-!
# Reading by fields

The readers of types and properties go through the entries of an object themselves, so that their
recursion follows the data. Here they are put in terms of look-ups and of reading items and members
in turn.
-/

namespace ScriptDefs

/-! ## Plain forms -/

theorem BaseType.toData_eq_map (types : List BaseType) :
    BaseType.toData types = types.map BaseType.toDatum := by
  induction types with
  | nil => rfl
  | cons t rest ih => rw [BaseType.toData, ih, List.map_cons]

theorem Variable.toData_eq_map (kind : Text) (vs : List Variable) :
    Variable.toData kind vs = vs.map (Variable.toDatum kind) := by
  induction vs with
  | nil => rfl
  | cons v rest ih => rw [Variable.toData, ih, List.map_cons]

theorem Table.map_toFields (props : List (Text × Property)) :
    Datum.map (Table.toFields props) = .object (Assoc.mapValues Property.toDatum props) := by
  rw [Datum.object]
  congr 1
  induction props with
  | nil => rfl
  | cons e rest ih =>
    rw [Table.toFields, ih]
    rfl

/-- The entries of the plain form of a function. -/
def Function.fields (f : Function) : Fields :=
  [(.text "def", .text "func"), (.text "name", .text f.name), (.text "desc", f.desc),
    (.text "link", .ofOption f.link), (.text "energy", f.energy), (.text "sleep", f.sleep),
    (.text "must_use", .bool f.mustUse),
    (.text "signatures", .list (f.signatures.map Signature.toDatum))] ++
  (flagFields [("private", f.restricted), ("deprecated", f.deprecated), ("god-mode", f.godMode),
    ("linden-experience", f.lindenExperience), ("takesSelf", f.takesSelf)]).map
      fun e ↦ (.text e.1, e.2)

theorem Function.toDatum_eq (f : Function) : f.toDatum = .map f.fields := rfl

/-- The entries of the plain form of a constant. -/
def Constant.fields (c : Constant) : Fields :=
  [(.text "def", .text "const"), (.text "name", .text c.name), (.text "desc", c.desc),
    (.text "type", c.type.toDatum), (.text "value", c.value),
    (.text "valueRaw", .ofOption c.valueRaw), (.text "link", .text c.link)]

theorem Constant.toDatum_eq (c : Constant) : c.toDatum = .map c.fields := rfl

/-- Every simple type is found under its name. -/
theorem SimpleType.ofName?_name (s : SimpleType) : SimpleType.ofName? s.name = some s := by
  cases s <;> simp [SimpleType.ofName?, SimpleType.all, SimpleType.name]

/-! ## Items and members -/

theorem BaseType.readItems_eq (place : Text) (index : Nat) (items : List Datum) :
    BaseType.readItems place index items = readEach BaseType.read place index items := by
  induction items generalizing index with
  | nil => rfl
  | cons d rest ih => rw [BaseType.readItems, readEach, ih]

theorem Variable.readItems_eq (kind place : Text) (index : Nat) (items : List Datum) :
    Variable.readItems kind place index items =
      readEach (Variable.read kind) place index items := by
  induction items generalizing index with
  | nil => rfl
  | cons d rest ih => rw [Variable.readItems, readEach, ih]

theorem Signature.readItems_eq (place : Text) (index : Nat) (items : List Datum) :
    Signature.readItems place index items = readEach Signature.read place index items := by
  induction items generalizing index with
  | nil => rfl
  | cons d rest ih => rw [Signature.readItems, readEach, ih]

theorem Property.readEntries_eq (place : Text) (fields : Fields) :
    Property.readEntries place fields = readMembers Property.read place fields := by
  induction fields with
  | nil => rfl
  | cons e rest ih =>
    obtain ⟨k, d⟩ := e
    cases k with
    | text key => rw [Property.readEntries, readMembers_cons, ih]
    | _ =>
      rw [Property.readEntries, readMembers_cons_of_ne _ _ (by simp), ih]
      simp

/-! ## Look-ups -/

variable (place key : Text) (fields : Fields)

theorem BaseType.readListAt_eq :
    BaseType.readListAt place key fields = (do
      let d ← fields.require place key
      let items ← d.requireList (memberPlace place key)
      readEach BaseType.read (memberPlace place key) 0 items) := by
  induction fields with
  | nil => rfl
  | cons e rest ih =>
    obtain ⟨k, d⟩ := e
    rw [BaseType.readListAt, Fields.require, Fields.get?_cons]
    by_cases h : k = .text key
    · rw [if_pos h, if_pos h]
      cases d <;> simp [BaseType.readList, Datum.requireList, BaseType.readItems_eq]
    · rw [if_neg h, if_neg h, ih, Fields.require]

theorem Variable.readListAt_eq (kind : Text) :
    Variable.readListAt kind place key fields = (do
      let items ← fields.optionalList key (memberPlace place key)
      readEach (Variable.read kind) (memberPlace place key) 0 items) := by
  induction fields with
  | nil => rfl
  | cons e rest ih =>
    obtain ⟨k, d⟩ := e
    rw [Variable.readListAt, Fields.optionalList, Fields.get?_cons]
    by_cases h : k = .text key
    · rw [if_pos h, if_pos h]
      cases d <;> simp [Variable.readList, Datum.requireList, Variable.readItems_eq]
    · rw [if_neg h, if_neg h, ih, Fields.optionalList]

theorem Signature.readAt_eq :
    Signature.readAt place key fields = (do
      let d ← fields.require place key
      Signature.read (memberPlace place key) d) := by
  induction fields with
  | nil => rfl
  | cons e rest ih =>
    obtain ⟨k, d⟩ := e
    rw [Signature.readAt, Fields.require, Fields.get?_cons]
    by_cases h : k = .text key
    · rw [if_pos h, if_pos h, ok_bind]
    · rw [if_neg h, if_neg h, ih, Fields.require]

theorem Property.readMapAt_eq :
    Property.readMapAt place key fields = (do
      let entries ← fields.optionalMap key (memberPlace place key)
      readMembers Property.read (memberPlace place key) entries) := by
  induction fields with
  | nil => rfl
  | cons e rest ih =>
    obtain ⟨k, d⟩ := e
    rw [Property.readMapAt, Fields.optionalMap, Fields.get?_cons]
    by_cases h : k = .text key
    · rw [if_pos h, if_pos h]
      cases d <;> simp [Property.readMap, Datum.requireMap, Property.readEntries_eq]
    · rw [if_neg h, if_neg h, ih, Fields.optionalMap]

end ScriptDefs
