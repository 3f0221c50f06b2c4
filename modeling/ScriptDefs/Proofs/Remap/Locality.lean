import ScriptDefs.Proofs.Data.Changes
import ScriptDefs.Proofs.Patch.Edit
import ScriptDefs.Proofs.Remap.Modes
import ScriptDefs.Proofs.Remap.WellFormed
import ScriptDefs.Proofs.Types.RoundTrip

/-!
# Local overrides

Patches with paths to entries of a document, or into them, change these entries alone: the others
are the same after the plain form has been patched and read back, the keys stay in their order, and
the keys of new entries come last.
-/

namespace ScriptDefs

/-- The four maps of a document. -/
inductive DocumentMap where
  /-- The properties of the global table. -/
  | props
  | types
  | classes
  | events
  deriving DecidableEq, Repr

namespace DocumentMap

/-- Where a map stands in the plain form of a document. -/
def path : DocumentMap → List Segment
  | props => [.key "global", .key "props"]
  | types => [.key "types"]
  | classes => [.key "classes"]
  | events => [.key "events"]

/-- A path leads to an entry of a map, or into it. -/
def Begins (m : DocumentMap) (key : Text) (path : List Segment) : Prop :=
  m.path ++ [.key key] <+: path

/-- One of the patches has a path to an entry of a map, or into it. -/
def Named (m : DocumentMap) (patches : List Patch) (key : Text) : Prop :=
  ∃ p ∈ patches, m.Begins key p.path

/-- The plain form of a document with a global table of a name and with certain entries. -/
def form (name : Text) (maps : DocumentMap → Fields) : Datum :=
  .object [
    ("global", .object [("def", .text "table"), ("name", .text name),
      ("props", .map (maps props))]),
    ("types", .map (maps types)),
    ("classes", .map (maps classes)),
    ("events", .map (maps events))]

/-- Patching an entry binds its key in its map. -/
theorem apply_form {m : DocumentMap} {key : Text} {p : Patch} {name : Text}
    {maps : DocumentMap → Fields} {d : Datum} (hp : m.Begins key p.path)
    (h : p.apply (form name maps) = .ok d) :
    ∃ part, d = form name (Function.update maps m (Assoc.put (.text key) part (maps m))) := by
  obtain ⟨rest, hrest⟩ := hp
  obtain ⟨_, rfl⟩ := Patch.apply_eq_ok.mp h
  rw [← hrest, List.append_assoc]
  refine ⟨(((maps m).get? key).getD .null).putAt rest p.value, ?_⟩
  cases m <;>
    simp [path, form, Datum.object, Datum.putAt, Datum.part?, Datum.withPart, Assoc.put]

/-- Patches with paths to entries change the maps under the keys that they name alone. -/
theorem applyAll_form {named : DocumentMap → Text → Prop} {patches : List Patch} {name : Text}
    {given maps : DocumentMap → Fields} {d : Datum}
    (hpatches : ∀ p ∈ patches, ∃ m key, m.Begins key p.path ∧ named m key)
    (hchanged : ∀ m, Assoc.ChangedOnly (fun k ↦ ∃ t, k = .text t ∧ named m t) (given m) (maps m))
    (h : Patch.applyAll patches (form name maps) = .ok d) :
    ∃ maps', d = form name maps' ∧
      ∀ m, Assoc.ChangedOnly (fun k ↦ ∃ t, k = .text t ∧ named m t) (given m) (maps' m) := by
  induction patches generalizing maps with
  | nil =>
    cases h
    exact ⟨maps, rfl, hchanged⟩
  | cons p patches ih =>
    obtain ⟨⟨m, key, hbegins, hnamed⟩, hpatches⟩ := List.forall_mem_cons.mp hpatches
    obtain ⟨d', happly, h⟩ := bind_eq_ok.mp h
    obtain ⟨part, rfl⟩ := apply_form hbegins happly
    refine ih hpatches (fun m' ↦ ?_) h
    by_cases hm : m' = m
    · subst hm
      rw [Function.update_self]
      exact (hchanged m').put ⟨key, rfl, hnamed⟩ part
    · rw [Function.update_of_ne hm]
      exact hchanged m'

end DocumentMap

/-! ## Reading -/

namespace Document

/-- The entries of the maps of a document in plain form. -/
def fields (d : Document) : DocumentMap → Fields
  | .props => (d.globalTable.props.mapValues Property.toDatum).map fun f ↦ (.text f.1, f.2)
  | .types => (d.types.mapValues Alias.toDatum).map fun f ↦ (.text f.1, f.2)
  | .classes => (d.classes.mapValues ValueClass.toDatum).map fun f ↦ (.text f.1, f.2)
  | .events => (d.events.mapValues Event.toDatum).map fun f ↦ (.text f.1, f.2)

theorem toDatum_eq_form (d : Document) :
    d.toDatum = DocumentMap.form d.globalTable.name d.fields := by
  obtain ⟨⟨name, props⟩, types, classes, events⟩ := d
  rw [toDatum, Table.toDatum, Table.map_toFields]
  rfl

/-- A table is read from its plain form by reading its properties. -/
theorem read_table (place name : Text) (props : Fields) :
    Table.read place (.object [("def", .text "table"), ("name", .text name),
      ("props", .map props)]) = do
        return .mk name (← readMembers Property.read (memberPlace place "props") props) := by
  have hread : Property.read place (.object [("def", .text "table"), ("name", .text name),
      ("props", .map props)]) = do
        return .table
          (.mk name (← readMembers Property.read (memberPlace place "props") props)) := by
    simp [Datum.object, Property.read, Fields.get, Fields.optionalMap, Datum.requireMap,
      Fields.requireText, Fields.require, Property.readMapAt_eq]
  rw [Table.read, hread]
  simp only [Datum.object, Datum.requireMap, List.map_cons, List.map_nil, ok_bind]
  rw [Fields.expectDef_of_get? place (by simp)]
  cases readMembers Property.read (memberPlace place "props") props <;> rfl

/-- A document is read from its plain form by reading the members of its maps. -/
theorem read_form (name : Text) (maps : DocumentMap → Fields) :
    Document.read (DocumentMap.form name maps) = (do
      let props ← readMembers Property.read (memberPlace "global" "props") (maps .props)
      let types ← readMembers Alias.read "types" (maps .types)
      let classes ← readMembers ValueClass.read "classes" (maps .classes)
      let events ← readMembers Event.read "events" (maps .events)
      return { globalTable := .mk name props, types, classes, events }) := by
  have htable := read_table "global" name (maps .props)
  simp only [Datum.object, List.map_cons, List.map_nil] at htable
  simp only [DocumentMap.form, Datum.object, Document.read, Datum.requireMap, ok_bind,
    List.map_cons, List.map_nil]
  simp [Fields.optionalMap, Fields.require, Datum.requireMap, htable]

/-- Where the maps of a well-formed document are changed under some keys in plain form, a document
that is read from it has the same name and is changed under the same keys. -/
theorem changedOnly_of_read {given : Datum → Prop} (kept : Datum.Kept given) {d d' : Document}
    (hd : d.WellFormed given) {named : DocumentMap → Text → Prop} {maps : DocumentMap → Fields}
    (hchanged : ∀ m, Assoc.ChangedOnly (fun k ↦ ∃ t, k = .text t ∧ named m t) (d.fields m) (maps m))
    (h : Document.read (DocumentMap.form d.globalTable.name maps) = .ok d') :
    d'.globalTable.name = d.globalTable.name ∧
      Assoc.ChangedOnly (named .props) d.globalTable.props d'.globalTable.props ∧
      Assoc.ChangedOnly (named .types) d.types d'.types ∧
      Assoc.ChangedOnly (named .classes) d.classes d'.classes ∧
      Assoc.ChangedOnly (named .events) d.events d'.events := by
  rw [read_form] at h
  obtain ⟨props, hprops, h⟩ := bind_eq_ok.mp h
  obtain ⟨types, htypes, h⟩ := bind_eq_ok.mp h
  obtain ⟨classes, hclasses, h⟩ := bind_eq_ok.mp h
  obtain ⟨events, hevents, h⟩ := bind_eq_ok.mp h
  cases h
  have htable : ∀ e ∈ d.globalTable.props, e.2.WellFormed given :=
    Table.wellFormed_iff.mp hd.globalTable
  refine ⟨rfl, ?_, ?_, ?_, ?_⟩
  · exact changedOnly_of_readMembers (fun e he place ↦ e.2.read_toDatum kept place (htable e he))
      (hchanged .props) hprops
  · exact changedOnly_of_readMembers (fun e he place ↦ e.2.read_toDatum kept place (hd.types e he))
      (hchanged .types) htypes
  · exact changedOnly_of_readMembers
      (fun e he place ↦ e.2.read_toDatum kept place (hd.classes e he)) (hchanged .classes) hclasses
  · exact changedOnly_of_readMembers
      (fun e he place ↦ e.2.read_toDatum kept place (hd.events e he)) (hchanged .events) hevents

/-- Patches with paths to entries of a well-formed document, or into them, change it there alone. -/
theorem overridden_local {given : Datum → Prop} (kept : Datum.Kept given) {d d' : Document}
    (hd : d.WellFormed given) {patches : List Patch}
    (hpatches : ∀ p ∈ patches, ∃ m key, DocumentMap.Begins m key p.path)
    (h : d.overridden patches = .ok d') :
    d'.globalTable.name = d.globalTable.name ∧
      Assoc.ChangedOnly (DocumentMap.Named .props patches) d.globalTable.props
        d'.globalTable.props ∧
      Assoc.ChangedOnly (DocumentMap.Named .types patches) d.types d'.types ∧
      Assoc.ChangedOnly (DocumentMap.Named .classes patches) d.classes d'.classes ∧
      Assoc.ChangedOnly (DocumentMap.Named .events patches) d.events d'.events := by
  by_cases hnil : patches = []
  · subst hnil
    cases h
    exact ⟨rfl, .refl _, .refl _, .refl _, .refl _⟩
  · rw [overridden, override_of_ne hnil] at h
    obtain ⟨x, hx, h⟩ := bind_eq_ok.mp h
    have happlied := mapError_eq_ok.mp hx
    rw [toDatum_eq_form] at happlied
    have hnamed : ∀ p ∈ patches, ∃ m key, DocumentMap.Begins m key p.path ∧
        DocumentMap.Named m patches key := by
      intro p hp
      obtain ⟨m, key, hbegins⟩ := hpatches p hp
      exact ⟨m, key, hbegins, p, hp, hbegins⟩
    obtain ⟨maps, rfl, hchanged⟩ :=
      DocumentMap.applyAll_form hnamed (fun m ↦ .refl (d.fields m)) happlied
    exact changedOnly_of_read kept hd hchanged (mapError_eq_ok.mp h)

end Document

namespace Build

/-- The document of an accepted catalogue with well-formed built-in definitions is changed by
patches in the entries that they name alone: all others are the same as without patches, all keys
stay in their order with new ones after them, all new entries are named by a patch, and the name of
the global table stays. -/
theorem remapped_local (options : BuildOptions) (builtins : Builtins) (x : Datum) (c : Catalogue)
    (hc : Catalogue.read x = .ok c) (hb : builtins.WellFormed Datum.IsGiven)
    (hpatches : ∀ p ∈ options.documentPatches, ∃ m key, DocumentMap.Begins m key p.path)
    (d d' : Document)
    (hd : (remapped { options with documentPatches := [] } builtins c).result = .ok d)
    (hd' : (remapped options builtins c).result = .ok d') :
    d'.globalTable.name = d.globalTable.name ∧
      Assoc.ChangedOnly (DocumentMap.Named .props options.documentPatches) d.globalTable.props
        d'.globalTable.props ∧
      Assoc.ChangedOnly (DocumentMap.Named .types options.documentPatches) d.types d'.types ∧
      Assoc.ChangedOnly (DocumentMap.Named .classes options.documentPatches) d.classes d'.classes ∧
      Assoc.ChangedOnly (DocumentMap.Named .events options.documentPatches) d.events d'.events := by
  rw [remapped_result] at hd hd'
  obtain ⟨d₀, hd₀, hd⟩ := bind_eq_ok.mp hd
  obtain ⟨d₁, hd₁, hd'⟩ := bind_eq_ok.mp hd'
  obtain rfl : d₀ = d := Except.ok.inj hd
  have hremapped := mapError_eq_ok.mp hd₀
  obtain rfl : d₁ = d₀ := Except.ok.inj ((mapError_eq_ok.mp hd₁).symm.trans hremapped)
  have hcatalogue :=
    ((Catalogue.read_reads Datum.inherited_true (d := x) trivial).of_ok hc).wellFormed
  have hgiven : ∀ t : Text, Datum.IsGiven (.text t) := fun _ ↦ Datum.IsText.orEmptyText trivial
  have hwellFormed :=
    (Remap.toDocument_wellFormed hgiven options.mode hcatalogue hb).of_ok hremapped
  exact Document.overridden_local (fun _ h ↦ h) hwellFormed hpatches (mapError_eq_ok.mp hd')

end Build

namespace Local

/-- A catalogue with one function, in plain form. -/
def data : Datum :=
  .object [("functions", .object [("llSay", .object
    [("def", .text "func"), ("name", .text "llSay"), ("result", .text "integer")])])]

/-- The catalogue that is read from the data. -/
def catalogue : Catalogue where
  functions := [("llSay", {
      name := "llSay"
      args := []
      result := .text "integer"
      desc := .text []
      energy := .null
      sleep := .null
      mustUse := false
      link := none })]

/-- A patch that adds a named type. -/
def patch : Patch where
  path := [.key "types", .key "t"]
  value := .object [("name", .text "t"),
    ("type", .list [.object [("def", .text "simple"), ("value", .text "any")]])]

/-- The document with certain named types. -/
def documentWith (types : Assoc Text Alias) : Document where
  globalTable := .mk "SLua" [("ll", .table (.mk "ll" [("Say", .function {
      name := "Say"
      desc := .text []
      link := none
      signatures := [.mk [] [.plain (.text []) (.text []) [.simple .number]]]
      energy := .null
      sleep := .null })]))]
  types
  classes := []
  events := []

/-- The named type that the patch adds. -/
def added : Alias where
  name := "t"
  desc := .text []
  types := [.simple .any]

theorem toDocument_catalogue : catalogue.toDocument .strict {} = .ok (documentWith []) := by
  have hconstants : Remap.constants catalogue = .ok [] := by
    rw [Remap.constants, Assoc.sorted, catalogue, List.mergeSort_nil]
    rfl
  have hevents : Remap.events .strict catalogue = .ok [] := by
    rw [Remap.events, Assoc.sorted, catalogue, List.mergeSort_nil]
    rfl
  rw [Catalogue.toDocument, hconstants, hevents]
  rfl

theorem result_before : (Build.remapped {} {} catalogue).result = .ok (documentWith []) := by
  rw [Build.remapped_result, toDocument_catalogue]
  rfl

theorem result_after : (Build.remapped { documentPatches := [patch] } {} catalogue).result =
    .ok (documentWith [("t", added)]) := by
  rw [Build.remapped_result, toDocument_catalogue]
  rfl

theorem begins_patch : ∀ p ∈ [patch], ∃ m key, DocumentMap.Begins m key p.path :=
  List.forall_mem_singleton.mpr ⟨.types, "t", [], rfl⟩

theorem wellFormed_builtins : Builtins.WellFormed Datum.IsGiven {} :=
  ⟨by simp, by simp, by simp, by simp⟩

end Local

theorem Build.remapped_local_added_type :
    (Build.remapped { documentPatches := [Local.patch] } {} Local.catalogue).result =
      .ok (Local.documentWith [("t", Local.added)]) ∧
    Assoc.ChangedOnly (DocumentMap.Named .types [Local.patch]) [] [("t", Local.added)] :=
  ⟨Local.result_after, (Build.remapped_local { documentPatches := [Local.patch] } {} Local.data
    Local.catalogue rfl Local.wellFormed_builtins Local.begins_patch _ _ Local.result_before
    Local.result_after).2.2.1⟩

end ScriptDefs
