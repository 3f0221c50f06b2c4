import ScriptDefs.Proofs.Types.Reading
import ScriptDefs.Proofs.Types.WellFormed

/-!
# Reading back what was written

A well-formed document can be read back from its plain form and is the same document then, in all
fields and with all keys in their order. Of the data that documents take over as they are given it
is only asked that reading does not replace it by the empty text.
-/

namespace ScriptDefs

/-! ## Types -/

theorem BaseType.readLiteral_toDatum (place : Text) (v : Literal) :
    BaseType.readLiteral place v.toDatum = .ok (.literal v) := by
  cases v <;> rfl

/-- Data of a kind that reading takes over as it is. -/
def Datum.Kept (given : Datum → Prop) : Prop := ∀ d, given d → d.orEmptyText = d

theorem Datum.kept_isText : Datum.Kept Datum.IsText := fun _ h ↦ h.orEmptyText

variable {given : Datum → Prop}

mutual

/-- A well-formed type can be read back. -/
theorem BaseType.read_toDatum (kept : Datum.Kept given) :
    ∀ (t : BaseType) (place : Text), t.WellFormed given →
      BaseType.read place t.toDatum = .ok t
  | .simple s, place, _ => by
    simp [BaseType.toDatum, Datum.object, BaseType.read, Fields.get, BaseType.readSimple,
      Datum.toText?, SimpleType.ofName?_name]
  | .literal v, place, _ => by
    simp [BaseType.toDatum, Datum.object, BaseType.read, Fields.get, BaseType.readLiteral_toDatum]
  | .custom name, place, _ => by
    simp [BaseType.toDatum, Datum.object, BaseType.read, Fields.get, BaseType.readCustom]
  | .function s, place, h => by
    have hs := Signature.read_toDatum kept s (memberPlace place "value") h
    simp [BaseType.toDatum, Datum.object, BaseType.read, Fields.get, Signature.readAt_eq,
      Fields.require, hs]
  | .table elements, place, h => by
    have he := BaseType.readEach_toData kept elements (memberPlace place "value") 0 h
    simp [BaseType.toDatum, Datum.object, BaseType.read, Fields.get, BaseType.readListAt_eq,
      Fields.require, Datum.requireList, he]

/-- Well-formed types can be read back from a list. -/
theorem BaseType.readEach_toData (kept : Datum.Kept given) :
    ∀ (types : List BaseType) (place : Text) (index : Nat), BaseType.AllWellFormed given types →
    readEach BaseType.read place index (BaseType.toData types) = .ok types
  | [], _, _, _ => rfl
  | t :: rest, place, index, h => by
    have ht := BaseType.read_toDatum kept t (itemPlace place index) h.1
    have hrest := BaseType.readEach_toData kept rest place (index + 1) h.2
    rw [BaseType.toData, readEach, ht, ok_bind, hrest]
    rfl

/-- A well-formed variable can be read back. -/
theorem Variable.read_toDatum (kept : Datum.Kept given) :
    ∀ (v : Variable) (kind place : Text), v.WellFormed given →
    Variable.read kind place (v.toDatum kind) = .ok v
  | .mk name desc types variadic optional, kind, place, ⟨hname, hdesc, hne, htypes⟩ => by
    have ht := BaseType.readEach_toData kept types (memberPlace place "type") 0 htypes
    simp [Variable.toDatum, Datum.object, Variable.read, Fields.expectDef, Fields.get,
      BaseType.readListAt_eq, Fields.require, Datum.requireList, ht, requireTypes, hne,
      Fields.flag, Fields.orEmptyText, kept name hname, kept desc hdesc]

/-- Well-formed variables can be read back from a list. -/
theorem Variable.readEach_toData (kept : Datum.Kept given) :
    ∀ (vs : List Variable) (kind place : Text) (index : Nat), Variable.AllWellFormed given vs →
    readEach (Variable.read kind) place index (Variable.toData kind vs) = .ok vs
  | [], _, _, _, _ => rfl
  | v :: rest, kind, place, index, h => by
    have hv := Variable.read_toDatum kept v kind (itemPlace place index) h.1
    have hrest := Variable.readEach_toData kept rest kind place (index + 1) h.2
    rw [Variable.toData, readEach, hv, ok_bind, hrest]
    rfl

/-- A well-formed signature can be read back. -/
theorem Signature.read_toDatum (kept : Datum.Kept given) :
    ∀ (s : Signature) (place : Text), s.WellFormed given →
    Signature.read place s.toDatum = .ok s
  | .mk args results, place, ⟨hargs, hresults⟩ => by
    have ha := Variable.readEach_toData kept args "arg" (memberPlace place "args") 0 hargs
    have hr :=
      Variable.readEach_toData kept results "result" (memberPlace place "result") 0 hresults
    simp [Signature.toDatum, Datum.object, Signature.read, Variable.readListAt_eq,
      Fields.optionalList, Datum.requireList, ha, hr]

end

/-! ## Functions and constants -/

/-- A well-formed function can be read back. -/
theorem Function.read_toDatum (kept : Datum.Kept given) (f : Function) (place : Text)
    (h : f.WellFormed given) : Function.read place f.toDatum = .ok f := by
  have hdef : f.fields.get? "def" = some (.text "func") := by simp [fields]
  have hname : f.fields.get? "name" = some (.text f.name) := by simp [fields]
  have hdesc : f.fields.get? "desc" = some f.desc := by simp [fields]
  have hlink : f.fields.get? "link" = some (.ofOption f.link) := by simp [fields]
  have henergy : f.fields.get? "energy" = some f.energy := by simp [fields]
  have hsleep : f.fields.get? "sleep" = some f.sleep := by simp [fields]
  have hitems : f.fields.get? "signatures" = some (.list (f.signatures.map Signature.toDatum)) := by
    simp [fields]
  have hmust : f.fields.get? "must_use" = some (.bool f.mustUse) := by simp [fields]
  -- the other flags are left out when they are not set
  have hprivate : f.fields.get? "private" = if f.restricted then some (.bool true) else none := by
    simp [fields]
  have hdeprecated :
      f.fields.get? "deprecated" = if f.deprecated then some (.bool true) else none := by
    simp [fields]
  have hgod : f.fields.get? "god-mode" = if f.godMode then some (.bool true) else none := by
    simp [fields]
  have hlinden : f.fields.get? "linden-experience" =
      if f.lindenExperience then some (.bool true) else none := by
    simp [fields]
  have hself : f.fields.get? "takesSelf" = if f.takesSelf then some (.bool true) else none := by
    simp [fields]
  have hne : (f.signatures.map Signature.toDatum).isEmpty = false := by simp [h.signatures_ne]
  have hsignatures (place : Text) :
      readEach Signature.read place 0 (f.signatures.map Signature.toDatum) = .ok f.signatures :=
    readEach_map (fun s hs place ↦ Signature.read_toDatum kept s place (h.signatures s hs)) place 0
  simp only [toDatum_eq, Function.read, Datum.requireMap, ok_bind, pure_eq_ok,
    Fields.expectDef_of_get? place hdef, Fields.require_of_get? place hitems, Datum.requireList,
    hne, Bool.false_eq_true, ite_false, Fields.requireText_of_get? place hname,
    Fields.orEmptyText_of_get? hdesc, kept f.desc h.desc, Fields.optionalText_of_get? place hlink,
    Signature.readItems_eq, hsignatures, Fields.numberOrNull_of_get? place henergy h.energy,
    Fields.numberOrNull_of_get? place hsleep h.sleep, Fields.flag_of_get? place (.inl hmust),
    Fields.flag_of_get? place (.inr hprivate), Fields.flag_of_get? place (.inr hdeprecated),
    Fields.flag_of_get? place (.inr hgod), Fields.flag_of_get? place (.inr hlinden),
    Fields.flag_of_get? place (.inr hself)]

/-- A well-formed constant can be read back. -/
theorem Constant.read_toDatum (kept : Datum.Kept given) (c : Constant) (place : Text)
    (h : c.WellFormed given) : Constant.read place c.toDatum = .ok c := by
  have hdef : c.fields.get? "def" = some (.text "const") := by simp [fields]
  have hname : c.fields.get? "name" = some (.text c.name) := by simp [fields]
  have hdesc : c.fields.get? "desc" = some c.desc := by simp [fields]
  have htype : c.fields.get? "type" = some c.type.toDatum := by simp [fields]
  have hvalue : c.fields.get? "value" = some c.value := by simp [fields]
  have hraw : c.fields.get? "valueRaw" = some (.ofOption c.valueRaw) := by simp [fields]
  have hlink : c.fields.get? "link" = some (.ofOption (some c.link)) := by
    simp [fields, Datum.ofOption]
  have hread := BaseType.read_toDatum kept c.type (memberPlace place "type") h.type
  simp only [toDatum_eq, Constant.read, Datum.requireMap, ok_bind, pure_eq_ok,
    Fields.expectDef_of_get? place hdef, Fields.constantValue_of_get? place hvalue h.value,
    Fields.requireText_of_get? place hname, Fields.orEmptyText_of_get? hdesc, kept c.desc h.desc,
    Fields.require_of_get? place htype, hread, Fields.optionalText_of_get? place hraw,
    Fields.optionalText_of_get? place hlink, Option.getD_some]

/-! ## Classes, tables, events and named types -/

/-- A well-formed value class can be read back. -/
theorem ValueClass.read_toDatum (kept : Datum.Kept given) (c : ValueClass) (place : Text)
    (h : c.WellFormed given) : ValueClass.read place c.toDatum = .ok c := by
  have hfuncs := readMembers_mapValues (m := c.funcs)
    (fun e he place ↦ Function.read_toDatum kept e.2 place (h.funcs e he))
    (memberPlace place "funcs")
  have hprops := readMembers_mapValues (m := c.props)
    (fun e he place ↦ Constant.read_toDatum kept e.2 place (h.props e he))
    (memberPlace place "props")
  simp [ValueClass.toDatum, Datum.object, ValueClass.read, Datum.requireMap, Fields.expectDef,
    Fields.get, Fields.optionalMap, Fields.requireText, Fields.require, hfuncs, hprops]

mutual

/-- A well-formed property can be read back. -/
theorem Property.read_toDatum (kept : Datum.Kept given) : ∀ (p : Property) (place : Text),
    p.WellFormed given → Property.read place p.toDatum = .ok p
  | .constant c, place, h => by
    have hread := Constant.read_toDatum kept c place h
    have hdef : c.fields.get "def" = .text "const" := by simp [Constant.fields, Fields.get]
    rw [Constant.toDatum_eq] at hread
    simp [Property.toDatum, Constant.toDatum_eq, Property.read, hdef, hread]
  | .function f, place, h => by
    have hread := Function.read_toDatum kept f place h
    have hdef : f.fields.get "def" = .text "func" := by simp [Function.fields, Fields.get]
    rw [Function.toDatum_eq] at hread
    simp [Property.toDatum, Function.toDatum_eq, Property.read, hdef, hread]
  | .valueClass c, place, h => by
    have hread := ValueClass.read_toDatum kept c place h
    obtain ⟨fields, hfields, hdef⟩ : ∃ fields : Fields,
        c.toDatum = .map fields ∧ fields.get "def" = .text "class" :=
      ⟨_, rfl, by simp [Fields.get]⟩
    rw [hfields] at hread
    simp [Property.toDatum, hfields, Property.read, hdef, hread]
  | .table (.mk name props), place, h => by
    have hread := Table.readMembers_toFields kept props (memberPlace place "props") h
    simp [Property.toDatum, Table.toDatum, Datum.object, Property.read, Fields.get,
      Fields.optionalMap, Datum.requireMap, Fields.requireText, Fields.require,
      Property.readMapAt_eq, hread]

/-- Well-formed properties can be read back with their keys in order. -/
theorem Table.readMembers_toFields (kept : Datum.Kept given) :
    ∀ (props : List (Text × Property)) (place : Text), Table.AllWellFormed given props →
    readMembers Property.read place (Table.toFields props) = .ok props
  | [], _, _ => rfl
  | (key, p) :: rest, place, h => by
    have hp := Property.read_toDatum kept p (memberPlace place key) h.1
    have hrest := Table.readMembers_toFields kept rest place h.2
    rw [Table.toFields, readMembers_cons, hp, ok_bind, hrest]
    rfl

end

/-- A well-formed table can be read back. -/
theorem Table.read_toDatum (kept : Datum.Kept given) (t : Table) (place : Text)
    (h : t.WellFormed given) : Table.read place t.toDatum = .ok t := by
  obtain ⟨name, props⟩ := t
  have hread := Property.read_toDatum kept (.table (.mk name props)) place h
  rw [Property.toDatum] at hread
  rw [Table.read, hread]
  simp [Table.toDatum, Datum.object, Datum.requireMap, Fields.expectDef, Fields.get]

/-- A well-formed event can be read back. -/
theorem Event.read_toDatum (kept : Datum.Kept given) (e : Event) (place : Text)
    (h : e.WellFormed given) : Event.read place e.toDatum = .ok e := by
  have hargs := Variable.readEach_toData kept e.args "arg" (memberPlace place "args") 0 h.args
  simp [Event.toDatum, Datum.object, Event.read, Datum.requireMap, Fields.expectDef, Fields.get,
    Fields.requireText, Fields.require, Fields.orEmptyText, kept e.desc h.desc,
    Fields.optionalText, Variable.readListAt_eq, Fields.optionalList, Datum.requireList, hargs]

/-- A well-formed named type can be read back. -/
theorem Alias.read_toDatum (kept : Datum.Kept given) (a : Alias) (place : Text)
    (h : a.WellFormed given) : Alias.read place a.toDatum = .ok a := by
  have htypes := BaseType.readEach_toData kept a.types (memberPlace place "type") 0 h.types
  simp [Alias.toDatum, Datum.object, Alias.read, Datum.requireMap, Fields.get,
    Fields.requireText, Fields.require, Fields.orEmptyText, kept a.desc h.desc,
    BaseType.readListAt_eq, Datum.requireList, htypes, requireTypes, h.types_ne]

/-! ## Documents -/

/-- A well-formed document can be read back. -/
theorem Document.read_toDatum_of_wellFormed (kept : Datum.Kept given) (d : Document)
    (h : d.WellFormed given) : Document.read d.toDatum = .ok d := by
  have hglobal := Table.read_toDatum kept d.globalTable "global" h.globalTable
  have htypes := readMembers_mapValues (m := d.types)
    (fun e he place ↦ Alias.read_toDatum kept e.2 place (h.types e he)) "types"
  have hclasses := readMembers_mapValues (m := d.classes)
    (fun e he place ↦ ValueClass.read_toDatum kept e.2 place (h.classes e he)) "classes"
  have hevents := readMembers_mapValues (m := d.events)
    (fun e he place ↦ Event.read_toDatum kept e.2 place (h.events e he)) "events"
  simp [Document.toDatum, Datum.object, Document.read, Datum.requireMap, Fields.optionalMap,
    Fields.require, hglobal, htypes, hclasses, hevents]

/-- A document whose descriptions and variable names are texts, and whose definitions have the types
and signatures that they need, is what is read from its plain form: every field is the same and all
keys stand in the same order, however deeply tables and types are nested. -/
theorem Document.toDatum_lossless (d : Document) (h : d.WellFormed Datum.IsText) :
    Document.read d.toDatum = .ok d :=
  Document.read_toDatum_of_wellFormed Datum.kept_isText d h

namespace Nested

/-- An argument that is a list of functions on lists of such functions. -/
def argument : Variable :=
  let inner : Signature := .mk [.plain (.text "x") (.text []) [.literal (.float .nan)]] []
  let list : BaseType := .table [.function inner, .table [], .custom "vector"]
  .mk (.text "f") (.text "a list")
    [.table [.function (.mk [.plain (.text []) (.text []) [list]] [])], .simple .nil] true true

/-- A function with two signatures. -/
def function : Function where
  name := "Say"
  desc := .text []
  link := none
  signatures := [.mk [argument] [argument], .mk [] []]
  energy := .null
  sleep := .float .zero
  restricted := true
  takesSelf := true

/-- A constant whose value is a number. -/
def constant : Constant where
  name := "PI"
  desc := .text "\n"
  type := .simple .number
  value := .int 3

/-- A value class with a function and a property. -/
def valueClass : ValueClass where
  name := "vector"
  funcs := [("dot", function)]
  props := [("x", constant)]

/-- A document with tables in tables and all kinds of properties. -/
def document : Document where
  globalTable := .mk "SLua"
    [("ll", .table (.mk "ll" [("Say", .function function), ("t", .table (.mk [] []))])),
      ("PI", .constant constant), ("vector", .valueClass valueClass)]
  types := [("t", { name := "t", desc := .text [], types := [.simple .any, .table []] })]
  classes := [("vector", valueClass)]
  events := [("touch", { name := "touch", desc := .text [], link := [], args := [argument] })]

theorem wellFormed_argument : argument.WellFormed Datum.IsText := by
  simp [argument, Variable.plain, Variable.WellFormed, Variable.AllWellFormed,
    BaseType.WellFormed, BaseType.AllWellFormed, Signature.WellFormed, Datum.IsText]

theorem wellFormed_function : function.WellFormed Datum.IsText where
  desc := trivial
  signatures_ne := by simp [function]
  signatures := by
    simp [function, Signature.WellFormed, Variable.AllWellFormed, wellFormed_argument]
  energy := trivial
  sleep := trivial

theorem wellFormed_constant : constant.WellFormed Datum.IsText := ⟨trivial, trivial, trivial⟩

theorem wellFormed_valueClass : valueClass.WellFormed Datum.IsText where
  funcs := by simp [valueClass, wellFormed_function]
  props := by simp [valueClass, wellFormed_constant]

theorem wellFormed_document : document.WellFormed Datum.IsText where
  globalTable := by
    simp [document, Table.WellFormed, Table.AllWellFormed, Property.WellFormed,
      wellFormed_function, wellFormed_constant, wellFormed_valueClass]
  types := by
    simp only [document, List.mem_singleton, forall_eq]
    exact ⟨trivial, by simp, trivial, trivial, trivial⟩
  classes := by simp [document, wellFormed_valueClass]
  events := by
    simp only [document, List.mem_singleton, forall_eq]
    exact ⟨trivial, wellFormed_argument, trivial⟩

end Nested

theorem Document.toDatum_lossless_nested : Nested.document.WellFormed Datum.IsText ∧
    Document.read Nested.document.toDatum = .ok Nested.document :=
  ⟨Nested.wellFormed_document, Document.toDatum_lossless _ Nested.wellFormed_document⟩

end ScriptDefs
