import ScriptDefs.Proofs.Catalogue.RoundTrip
import ScriptDefs.Proofs.Data.Json.RoundTrip
import ScriptDefs.Proofs.Render.Output

/-!
# JSON outputs

The JSON outputs of a catalogue and of a document lose nothing: parsed and read again they give back
the whole value, keys in order. Their maps have different keys, as maps do. There is no output
exactly when an integer has more digits than are converted.
-/

namespace ScriptDefs

/-! ## Different keys -/

/-- The functions of a class are under different keys, and so are its properties. -/
structure ValueClass.DistinctKeys (c : ValueClass) : Prop where
  funcs : (Assoc.keys c.funcs).Nodup
  props : (Assoc.keys c.props).Nodup

mutual

/-- All tables and classes in a property have different keys. -/
def Property.DistinctKeys : Property → Prop
  | .constant _ | .function _ => True
  | .valueClass c => c.DistinctKeys
  | .table t => t.DistinctKeys

/-- The keys of a table differ, and those of all tables and classes in it. -/
def Table.DistinctKeys : Table → Prop
  | .mk _ props => (Assoc.keys props).Nodup ∧ Table.AllDistinctKeys props

/-- All tables and classes in the properties have different keys. -/
def Table.AllDistinctKeys : List (Text × Property) → Prop
  | [] => True
  | (_, p) :: rest => p.DistinctKeys ∧ Table.AllDistinctKeys rest

end

/-- The maps of a document have different keys, at any depth. -/
structure Document.DistinctKeys (d : Document) : Prop where
  globalTable : d.globalTable.DistinctKeys
  types : (Assoc.keys d.types).Nodup
  classes : (Assoc.keys d.classes).Nodup
  members : ∀ e ∈ d.classes, e.2.DistinctKeys
  events : (Assoc.keys d.events).Nodup

/-- The four maps of a catalogue have different keys. -/
structure Catalogue.DistinctKeys (c : Catalogue) : Prop where
  functions : (Assoc.keys c.functions).Nodup
  constants : (Assoc.keys c.constants).Nodup
  events : (Assoc.keys c.events).Nodup
  types : (Assoc.keys c.types).Nodup

/-! ## Plain forms -/

namespace Datum

/-- Data as JSON texts hold it, with any texts. -/
abbrev IsJsonData : Datum → Prop := IsJson fun _ ↦ True

theorem isJsonData_scalar {s : Scalar} (h : s.kind ∉ [.date, .moment, .bytes]) :
    (Datum.scalar s).IsJsonData := .scalar h fun _ _ ↦ trivial

@[simp] theorem isJsonData_text (t : Text) : (Datum.text t).IsJsonData :=
  isJsonData_scalar (by simp [Scalar.kind])

@[simp] theorem isJsonData_bool (b : Bool) : (Datum.bool b).IsJsonData :=
  isJsonData_scalar (by simp [Scalar.kind])

@[simp] theorem isJsonData_ofOption (t : Option Text) : (Datum.ofOption t).IsJsonData := by
  cases t <;> exact isJsonData_scalar (by simp [Scalar.kind])

variable {d : Datum}

theorem IsText.isJsonData (h : d.IsText) : d.IsJsonData := by
  obtain ⟨t, rfl⟩ := isText_iff.mp h
  exact isJsonData_text t

theorem IsNameOrNull.isJsonData (h : d.IsNameOrNull) : d.IsJsonData := by
  obtain ⟨t, rfl⟩ := isNameOrNull_iff.mp h
  exact isJsonData_ofOption t

theorem IsConstantValue.isJsonData (h : d.IsConstantValue) : d.IsJsonData := by
  unfold IsConstantValue at h
  split at h
  all_goals first
    | exact h.elim
    | exact isJsonData_scalar (by simp [Scalar.kind])

theorem IsCost.isConstantValue (h : d.IsCost) : d.IsConstantValue := by
  unfold IsCost at h
  split at h
  all_goals first
    | exact h.elim
    | trivial

theorem isJsonData_object {fields : List (Text × Datum)} (hkeys : (Assoc.keys fields).Nodup)
    (h : ∀ f ∈ fields, f.2.IsJsonData) : (Datum.object fields).IsJsonData :=
  .object hkeys (fun _ _ ↦ trivial) h

/-- Flags that are left out leave the keys different. -/
theorem isJsonData_definition {fields : List (Text × Datum)} {flags : List (Text × Bool)}
    (hkeys : (Assoc.keys fields ++ Assoc.keys flags).Nodup) (h : ∀ f ∈ fields, f.2.IsJsonData) :
    (Datum.object (fields ++ flagFields flags)).IsJsonData := by
  refine isJsonData_object ?_ (List.forall_mem_append.mpr ⟨h, fun f hf ↦ ?_⟩)
  · have hflags : (Assoc.keys (flagFields flags)).Sublist (Assoc.keys flags) := by
      rw [Assoc.keys, flagFields, List.map_map]
      exact List.filter_sublist.map _
    rw [Assoc.keys, List.map_append]
    exact hkeys.sublist ((List.Sublist.refl _).append hflags)
  · obtain ⟨g, -, rfl⟩ := List.mem_map.mp hf
    exact isJsonData_bool true

theorem isJsonData_mapValues {α : Type} {write : α → Datum} {m : Assoc Text α}
    (hkeys : (Assoc.keys m).Nodup) (h : ∀ e ∈ m, (write e.2).IsJsonData) :
    (Datum.object (m.mapValues write)).IsJsonData :=
  isJsonData_object (by rwa [Assoc.keys_mapValues]) (List.forall_mem_map.mpr h)

theorem isJsonData_map {α : Type} {write : α → Datum} {as : List α}
    (h : ∀ a ∈ as, (write a).IsJsonData) : (Datum.list (as.map write)).IsJsonData :=
  .list (List.forall_mem_map.mpr h)

end Datum

section Documents

open Datum

theorem Literal.isJsonData (v : Literal) : v.toDatum.IsJsonData := by
  cases v <;> exact isJsonData_scalar (by simp [Scalar.kind])

-- along the types, as their plain forms are made
mutual

theorem BaseType.isJsonData : ∀ t : BaseType, t.WellFormed IsText → t.toDatum.IsJsonData
  | .simple _, _ => isJsonData_object (by simp [Assoc.keys]) (by simp)
  | .literal v, _ => isJsonData_object (by simp [Assoc.keys]) (by simp [v.isJsonData])
  | .custom _, _ => isJsonData_object (by simp [Assoc.keys]) (by simp)
  | .function s, h => isJsonData_object (by simp [Assoc.keys]) (by simp [s.isJsonData h])
  | .table elements, h =>
    isJsonData_object (by simp [Assoc.keys]) (by
      simp [IsJson.list (BaseType.isJsonData_toData elements h)])

theorem BaseType.isJsonData_toData : ∀ types : List BaseType, BaseType.AllWellFormed IsText types →
    ∀ d ∈ BaseType.toData types, d.IsJsonData
  | [], _ => List.forall_mem_nil _
  | t :: rest, h =>
    List.forall_mem_cons.mpr ⟨t.isJsonData h.1, BaseType.isJsonData_toData rest h.2⟩

theorem Variable.isJsonData (kind : Text) :
    ∀ v : Variable, v.WellFormed IsText → (v.toDatum kind).IsJsonData
  | .mk _ _ types _ _, ⟨hname, hdesc, _, htypes⟩ =>
    isJsonData_object (by simp [Assoc.keys]) (by
      simp [hname.isJsonData, hdesc.isJsonData,
        IsJson.list (BaseType.isJsonData_toData types htypes)])

theorem Variable.isJsonData_toData (kind : Text) :
    ∀ vs : List Variable, Variable.AllWellFormed IsText vs →
      ∀ d ∈ Variable.toData kind vs, d.IsJsonData
  | [], _ => List.forall_mem_nil _
  | v :: rest, h =>
    List.forall_mem_cons.mpr ⟨v.isJsonData kind h.1, Variable.isJsonData_toData kind rest h.2⟩

theorem Signature.isJsonData : ∀ s : Signature, s.WellFormed IsText → s.toDatum.IsJsonData
  | .mk args results, ⟨hargs, hresults⟩ =>
    isJsonData_object (by simp [Assoc.keys]) (by
      simp [IsJson.list (Variable.isJsonData_toData "arg" args hargs),
        IsJson.list (Variable.isJsonData_toData "result" results hresults)])

end

theorem Function.WellFormed.isJsonData {f : Function} (h : f.WellFormed IsText) :
    f.toDatum.IsJsonData := by
  have hsignatures : (Datum.list (f.signatures.map Signature.toDatum)).IsJsonData :=
    isJsonData_map fun s hs ↦ Signature.isJsonData s (h.signatures s hs)
  refine isJsonData_definition (by simp [Assoc.keys]) ?_
  simp [hsignatures, h.desc.isJsonData, h.energy.isConstantValue.isJsonData,
    h.sleep.isConstantValue.isJsonData]

theorem Constant.WellFormed.isJsonData {c : Constant} (h : c.WellFormed IsText) :
    c.toDatum.IsJsonData :=
  isJsonData_object (by simp [Assoc.keys]) (by
    simp [h.desc.isJsonData, c.type.isJsonData h.type, h.value.isJsonData])

theorem ValueClass.WellFormed.isJsonData {c : ValueClass} (h : c.WellFormed IsText)
    (hkeys : c.DistinctKeys) : c.toDatum.IsJsonData :=
  isJsonData_object (by simp [Assoc.keys]) (by
    simp [isJsonData_mapValues hkeys.funcs fun e he ↦ (h.funcs e he).isJsonData,
      isJsonData_mapValues hkeys.props fun e he ↦ (h.props e he).isJsonData])

mutual

theorem Property.isJsonData :
    ∀ p : Property, p.WellFormed IsText → p.DistinctKeys → p.toDatum.IsJsonData
  | .constant _, h, _ => Constant.WellFormed.isJsonData h
  | .function _, h, _ => Function.WellFormed.isJsonData h
  | .valueClass _, h, hkeys => ValueClass.WellFormed.isJsonData h hkeys
  | .table t, h, hkeys => t.isJsonData h hkeys

theorem Table.isJsonData :
    ∀ t : Table, t.WellFormed IsText → t.DistinctKeys → t.toDatum.IsJsonData
  | .mk name props, h, ⟨hkeys, hprops⟩ => by
    have hfields : (Datum.map (Table.toFields props)).IsJsonData := by
      rw [Table.map_toFields]
      exact isJsonData_mapValues hkeys (Table.isJsonData_props props h hprops)
    rw [Table.toDatum]
    exact isJsonData_object (by simp [Assoc.keys]) (by simp [hfields])

theorem Table.isJsonData_props : ∀ props : List (Text × Property),
    Table.AllWellFormed IsText props → Table.AllDistinctKeys props →
      ∀ e ∈ props, e.2.toDatum.IsJsonData
  | [], _, _ => List.forall_mem_nil _
  | (_, p) :: rest, h, hkeys =>
    List.forall_mem_cons.mpr
      ⟨p.isJsonData h.1 hkeys.1, Table.isJsonData_props rest h.2 hkeys.2⟩

end

theorem Event.WellFormed.isJsonData {e : Event} (h : e.WellFormed IsText) : e.toDatum.IsJsonData :=
  isJsonData_object (by simp [Assoc.keys]) (by
    simp [h.desc.isJsonData, IsJson.list (Variable.isJsonData_toData "arg" e.args h.args)])

theorem Alias.WellFormed.isJsonData {a : Alias} (h : a.WellFormed IsText) : a.toDatum.IsJsonData :=
  isJsonData_object (by simp [Assoc.keys]) (by
    simp [h.desc.isJsonData, IsJson.list (BaseType.isJsonData_toData a.types h.types)])

/-- In plain form a well-formed document is data as JSON texts hold it. -/
theorem Document.WellFormed.isJsonData {d : Document} (h : d.WellFormed IsText)
    (hkeys : d.DistinctKeys) : d.toDatum.IsJsonData :=
  isJsonData_object (by simp [Assoc.keys]) (by
    simp [d.globalTable.isJsonData h.globalTable hkeys.globalTable,
      isJsonData_mapValues hkeys.types fun e he ↦ (h.types e he).isJsonData,
      isJsonData_mapValues hkeys.classes fun e he ↦
        (h.classes e he).isJsonData (hkeys.members e he),
      isJsonData_mapValues hkeys.events fun e he ↦ (h.events e he).isJsonData])

end Documents

namespace Catalogue

open Datum

theorem Argument.Readable.isJsonData {a : Argument} (h : a.Readable IsText) :
    a.toDatum.IsJsonData :=
  isJsonData_object (by simp [Assoc.keys]) (by simp [h.type.isJsonData, h.desc.isJsonData])

theorem isJsonData_arguments {args : List Argument} (h : ∀ a ∈ args, a.Readable IsText) :
    (Datum.list (args.map Argument.toDatum)).IsJsonData :=
  isJsonData_map fun a ha ↦ (h a ha).isJsonData

theorem Function.Readable.isJsonData {f : Function} (h : f.Readable IsText) :
    f.toDatum.IsJsonData := by
  refine isJsonData_definition (by simp [Assoc.keys]) ?_
  simp [isJsonData_arguments h.args_readable, h.result.isJsonData, h.desc.isJsonData,
    h.energy.isConstantValue.isJsonData, h.sleep.isConstantValue.isJsonData]

theorem Constant.Readable.isJsonData {c : Constant} (h : c.Readable IsText) :
    c.toDatum.IsJsonData := by
  refine isJsonData_definition (by simp [Assoc.keys]) ?_
  simp [h.type.isJsonData, h.value.isJsonData, h.desc.isJsonData]

theorem Event.Readable.isJsonData {e : Event} (h : e.Readable IsText) : e.toDatum.IsJsonData := by
  refine isJsonData_definition (by simp [Assoc.keys]) ?_
  simp [isJsonData_arguments h.args_readable, h.desc.isJsonData]

/-- In plain form a readable catalogue is data as JSON texts hold it. -/
theorem Readable.isJsonData {c : Catalogue} (h : c.Readable IsText) (hkeys : c.DistinctKeys) :
    c.toDatum.IsJsonData := by
  have htypes : ∀ e ∈ c.types, e.2.toDatum.IsJsonData := fun e he ↦
    isJsonData_object (by simp [Assoc.keys]) (by simp [(h.types e he).isJsonData])
  refine isJsonData_object (by simp [Assoc.keys]) ?_
  simp [isJsonData_mapValues hkeys.functions fun e he ↦ (h.functions e he).isJsonData,
    isJsonData_mapValues hkeys.constants fun e he ↦ (h.constants e he).isJsonData,
    isJsonData_mapValues hkeys.events fun e he ↦ (h.events e he).isJsonData,
    isJsonData_mapValues hkeys.types htypes]

end Catalogue

/-! ## Outputs -/

/-- A text is JSON, and what it denotes is read as a value. -/
def Json.Holds {α : Type} (read : Datum → Except ShapeError α) (t : Text) (a : α) : Prop :=
  ∃ d, Json.read t = .ok d ∧ read d = .ok a

/-- A value has a JSON output that holds it, unless an integer in its plain form has too many
digits. -/
abbrev Json.Preserves {α : Type} (read : Datum → Except ShapeError α) (write : α → Datum) (a : α)
    (output : Except RenderError Text) : Prop :=
  Outcome (fun t ↦ (write a).isWritable = true ∧ Json.Holds read t a)
    (fun e ↦ (write a).isWritable = false ∧ e = .json (.digitLimit .writing)) output

/-- Without too long integers there is an output. -/
theorem Json.Preserves.exists_text {α : Type} {read : Datum → Except ShapeError α}
    {write : α → Datum} {a : α} {output : Except RenderError Text}
    (h : Json.Preserves read write a output) (hw : (write a).isWritable = true) :
    ∃ t, output = .ok t ∧ Json.Holds read t a := by
  cases h with
  | ok ht => exact ⟨_, rfl, ht.2⟩
  | error he => exact absurd hw (Bool.eq_false_iff.mp he.1)

/-- A plain form that is read back is preserved by its JSON text. -/
theorem Render.json_outcome {α : Type} {read : Datum → Except ShapeError α} {write : α → Datum}
    {a : α} (hdata : (write a).IsJsonData) (hread : read (write a) = .ok a) :
    Json.Preserves read write a (Render.json (write a)) := by
  have hlegible (t : Text) (_ : True) : Json.Legible Json.indented.ascii t := fun h ↦ nomatch h
  refine ((Json.print_outcome hlegible hdata).mono fun t ht ↦ ?_).mapError fun e he ↦ ?_
  · exact ⟨ht.1, _, ht.2, hread⟩
  · exact ⟨he.1, congrArg RenderError.json he.2⟩

/-- The JSON outputs lose nothing. Of a document or a catalogue whose fields have the declared types
there is an output exactly when none of its integers has more digits than are converted; parsed and
read again, the output gives back the whole value with its keys in order: any code points in its
texts, empty and nested collections, integers apart from floating-point numbers, and these exactly,
with zeros of both signs, infinite ones and not-a-number. -/
theorem OutputKind.json_lossless (c : Catalogue) (d : Document) :
    (d.WellFormed Datum.IsText → d.DistinctKeys →
      Json.Preserves Document.read Document.toDatum d (documentJson.render c d)) ∧
    (c.Readable Datum.IsText → c.DistinctKeys →
      Json.Preserves Catalogue.read Catalogue.toDatum c (catalogueJson.render c d)) := by
  constructor
  · intro hd hkeys
    exact Render.json_outcome (hd.isJsonData hkeys)
      (Document.read_toDatum_of_wellFormed Datum.kept_isText d hd)
  · intro hc hkeys
    exact Render.json_outcome (hc.isJsonData hkeys) (Catalogue.read_toDatum Datum.kept_isText c hc)

namespace Spelled

/-- A key with a quote, a backslash, control characters, and code points outside ASCII and outside
the first plane. -/
def key : Text := ("\"\\\x01\t\x7f\u00e9\u2028" : Text) ++ [.scalar (Char.ofNat 0x1F600)]

/-- A constant with such a name and the smallest positive number. -/
def constant : Constant where
  name := key
  desc := .text key
  type := .literal (.float (.ofRank true 0))
  value := .float (.ofRank false 1)
  valueRaw := some "5e-324"

/-- A document with tables in tables, empty ones among them, and such a key. -/
def document : Document :=
  { Nested.document with
    globalTable := .mk key ((key, .constant constant) :: Nested.document.globalTable.props) }

theorem wellFormed_document : document.WellFormed Datum.IsText :=
  { Nested.wellFormed_document with
    globalTable := ⟨⟨trivial, trivial, trivial⟩, Nested.wellFormed_document.globalTable⟩ }

theorem distinctKeys_valueClass : Nested.valueClass.DistinctKeys := ⟨by decide, by decide⟩

theorem distinctKeys_document : document.DistinctKeys where
  globalTable := by
    refine ⟨by decide, trivial, ⟨by decide, trivial, ⟨by decide, trivial⟩, trivial⟩, trivial,
      distinctKeys_valueClass, trivial⟩
  types := by decide
  classes := by decide
  members := List.forall_mem_singleton.mpr distinctKeys_valueClass
  events := by decide

theorem distinctKeys_catalogue : Catalogue.Mixed.catalogue.DistinctKeys :=
  ⟨by decide, by decide, by decide, by decide⟩

end Spelled

theorem OutputKind.json_lossless_spelled :
    (Spelled.document.WellFormed Datum.IsText ∧ Spelled.document.DistinctKeys ∧
      Catalogue.Mixed.catalogue.Readable Datum.IsText ∧ Catalogue.Mixed.catalogue.DistinctKeys) ∧
    (∃ t, documentJson.render Catalogue.Mixed.catalogue Spelled.document = .ok t ∧
      Json.Holds Document.read t Spelled.document) ∧
    ∃ t, catalogueJson.render Catalogue.Mixed.catalogue Spelled.document = .ok t ∧
      Json.Holds Catalogue.read t Catalogue.Mixed.catalogue := by
  obtain ⟨hdocument, hcatalogue⟩ := json_lossless Catalogue.Mixed.catalogue Spelled.document
  have hd := hdocument Spelled.wellFormed_document Spelled.distinctKeys_document
  have hc := hcatalogue Catalogue.Mixed.readable Spelled.distinctKeys_catalogue
  refine ⟨⟨Spelled.wellFormed_document, Spelled.distinctKeys_document, Catalogue.Mixed.readable,
    Spelled.distinctKeys_catalogue⟩, ?_, ?_⟩
  · exact hd.exists_text (by decide +kernel)
  · exact hc.exists_text (by decide +kernel)

namespace Catalogue

/-- A catalogue with one function, of some cost. -/
def costly (energy : Int) : Catalogue where
  functions :=
    [("llFoo",
      { name := "llFoo", args := [], result := .null, desc := .text [], energy := .int energy
        sleep := .int 0, mustUse := false, link := none })]

variable (energy : Int)

theorem readable_costly : (costly energy).Readable Datum.IsText where
  functions := List.forall_mem_singleton.mpr
    { desc := trivial, args := List.forall_mem_nil _, energy := trivial, sleep := trivial
      argumentTypes := List.forall_mem_nil _, result := trivial }
  constants := List.forall_mem_nil _
  events := List.forall_mem_nil _
  types := List.forall_mem_nil _

theorem distinctKeys_costly : (costly energy).DistinctKeys :=
  ⟨List.nodup_singleton _, .nil, .nil, .nil⟩

theorem isEncodable_costly : (costly energy).toDatum.BuiltOf Scalar.IsEncodable := by
  have hR : Datum.Inherited (Datum.BuiltOf Scalar.IsEncodable) :=
    Datum.inherited_builtOf trivial (fun _ ↦ trivial) Text.isEncodable_ofString
  have hint (n : Int) : (Datum.int n).BuiltOf Scalar.IsEncodable := .scalar trivial
  have hdesc : (Datum.text []).BuiltOf Scalar.IsEncodable := hR.string ""
  have hlink : (Datum.ofOption none).BuiltOf Scalar.IsEncodable := hR.null
  have hfunctions : (Datum.object ((costly energy).functions.mapValues Function.toDatum)).BuiltOf
      Scalar.IsEncodable := by
    refine hR.object_mapValues.mpr (List.forall_mem_singleton.mpr ⟨hR.string _, ?_⟩)
    refine hR.object.mpr (List.forall_mem_append.mpr ⟨?_, hR.flagFields (by simp [hR.string])⟩)
    simp [hR.string, hR.bool, hR.null, hR.list, hint, hdesc, hlink]
  have hnone : (Datum.object []).BuiltOf Scalar.IsEncodable :=
    hR.object.mpr (List.forall_mem_nil _)
  refine hR.object.mpr (List.forall_mem_cons.mpr ⟨⟨hR.string _, hfunctions⟩, fun f hf ↦ ?_⟩)
  simp only [List.mem_cons, List.not_mem_nil, or_false] at hf
  rcases hf with rfl | rfl | rfl <;> exact ⟨hR.string _, hnone⟩

/-- A cost with too many digits keeps the catalogue from being written. -/
theorem isWritable_costly {n : Nat} (hn : Nat.pow 10 DigitLimit.limit ≤ n) :
    (costly n).toDatum.isWritable ≠ true := by
  have hwritable := Datum.inherited_isWritable
  intro h
  have hfunctions := ((hwritable.object.mp h) ("functions", _) List.mem_cons_self).2
  have hfunction := ((hwritable.object_mapValues.mp hfunctions) _ List.mem_cons_self).2
  have henergy := ((hwritable.object.mp hfunction) ("energy", .int n) (by simp)).2
  rw [Datum.isWritable, Json.isWritable_int_iff, Int.natAbs_natCast] at henergy
  exact Nat.not_lt.mpr hn henergy

end Catalogue

/-- An integer can be too long for an output. -/
theorem OutputKind.json_refuses_cost :
    let c := Catalogue.costly (Nat.pow 10 DigitLimit.limit : Nat)
    (c.Readable Datum.IsText ∧ c.DistinctKeys ∧ c.toDatum.BuiltOf Scalar.IsEncodable) ∧
      catalogueJson.render c Nested.document = .error (.json (.digitLimit .writing)) ∧
      ¬ ∃ t, catalogueJson.render c Nested.document = .ok t ∧ Json.Holds Catalogue.read t c := by
  intro c
  have hreadable : c.Readable Datum.IsText := Catalogue.readable_costly _
  have hkeys : c.DistinctKeys := Catalogue.distinctKeys_costly _
  have houtcome : Json.Preserves Catalogue.read Catalogue.toDatum c
      (catalogueJson.render c Nested.document) :=
    Render.json_outcome (hreadable.isJsonData hkeys)
      (Catalogue.read_toDatum Datum.kept_isText c hreadable)
  refine ⟨⟨hreadable, hkeys, Catalogue.isEncodable_costly _⟩, ?_⟩
  cases hrender : catalogueJson.render c Nested.document with
  | ok t => exact absurd (houtcome.of_ok hrender).1 (Catalogue.isWritable_costly (Nat.le_refl _))
  | error e =>
    obtain ⟨-, rfl⟩ := houtcome.of_error hrender
    exact ⟨rfl, fun ⟨t, ht, _⟩ ↦ nomatch ht⟩

end ScriptDefs
