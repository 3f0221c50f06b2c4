import ScriptDefs.Proofs.Keywords.Reread
import ScriptDefs.Proofs.Remap.Modes
import ScriptDefs.Proofs.Remap.WellFormed
import ScriptDefs.Proofs.Render.Identifiers

/-!
# Names from keyword files to outputs

Whatever a keyword file holds, everything that is extracted from it is stored under its name. This
stays so when the catalogue is remapped and merged with built-in definitions, so that all outputs show
the same identifiers.
-/

namespace ScriptDefs

/-! ## Extraction -/

namespace Keywords

open Catalogue Markup

/-- What is read from a definition under a name has this name. -/
theorem Section.entries_named {α β ε : Type} {nameOf : α → Text}
    {read : Text → β → Traced Diagnostic ε α} {definitions : List (Text × β)} {s : Section α}
    (h : ReadBy read definitions s)
    (hread : ∀ name d notes a, read name d = ⟨notes, .ok a⟩ → nameOf a = name) :
    Assoc.Named nameOf s.entries := by
  have hall : ∀ e ∈ s, nameOf e.2.1 = e.1 := by
    induction h with
    | nil => exact List.forall_mem_nil _
    | cons h _ ih => exact List.forall_mem_cons.mpr ⟨(hread _ _ _ _ h.2).trans h.1.symm, ih⟩
  refine Assoc.Named.ofList fun e he ↦ ?_
  obtain ⟨x, hx, rfl⟩ := List.mem_map.mp he
  exact hall x hx

theorem ofTree_named {effects : EffectTable} {root : Tree} {notes : List Note} {c : Catalogue}
    (h : ofTree effects root = ⟨notes, .ok c⟩) : c.NamedByKeys := by
  obtain ⟨fs, cs, es, ts, hfs, hcs, hes, hts, rfl, -⟩ := ofTree_eq_ok h
  exact {
    functions := Section.entries_named hfs fun name t notes f hf ↦ by
      obtain ⟨_, hf, -⟩ := Traced.note_bind_eq_ok.mp hf
      obtain ⟨energy, _, hf⟩ := Traced.ofExcept_bind_eq_ok.mp hf
      obtain ⟨sleep, _, hf⟩ := Traced.ofExcept_bind_eq_ok.mp hf
      rw [← (Traced.pure_eq_ok.mp hf).2]
    constants := Section.entries_named hcs fun name t notes c hc ↦ by
      obtain ⟨value, _, hc⟩ := Traced.ofExcept_bind_eq_ok.mp hc
      obtain ⟨_, hc, -⟩ := Traced.note_bind_eq_ok.mp hc
      rw [← (Traced.pure_eq_ok.mp hc).2]
    events := Section.entries_named hes fun name t notes e he ↦ by
      obtain ⟨_, he, -⟩ := Traced.note_bind_eq_ok.mp he
      rw [← (Traced.pure_eq_ok.mp he).2]
    types := Section.entries_named hts fun name t notes n hn ↦ by
      rw [← (Traced.pure_eq_ok.mp hn).2] }

theorem describedTypes_named : Assoc.Named TypeNote.name describedTypes := by
  intro e he
  obtain ⟨d, _, rfl⟩ := List.mem_map.mp he
  rfl

theorem ofData_named {effects : EffectTable} {data : Fields} {notes : List Note} {c : Catalogue}
    (h : ofData effects data = ⟨notes, .ok c⟩) : c.NamedByKeys := by
  obtain ⟨_, _, _, _, _, _, fs, cs, es, hfs, hcs, hes, rfl, -⟩ := ofData_eq_ok h
  exact {
    functions := Section.entries_named hfs fun name fields notes f hf ↦ by
      obtain ⟨_, args, _, _, hf, -⟩ := Traced.bind_eq_ok.mp hf
      obtain ⟨desc, _, hf⟩ := Traced.ofExcept_bind_eq_ok.mp hf
      rw [← (Traced.pure_eq_ok.mp hf).2]
    constants := Section.entries_named hcs fun name fields notes c hc ↦ by
      obtain ⟨raw, _, hc⟩ := Traced.ofExcept_bind_eq_ok.mp hc
      obtain ⟨value, _, hc⟩ := Traced.ofExcept_bind_eq_ok.mp hc
      obtain ⟨ds, _, hc⟩ := Traced.ofExcept_bind_eq_ok.mp hc
      obtain ⟨_, hc, -⟩ := Traced.note_bind_eq_ok.mp hc
      obtain ⟨desc, _, hc⟩ := Traced.ofExcept_bind_eq_ok.mp hc
      rw [← (Traced.pure_eq_ok.mp hc).2]
    events := Section.entries_named hes fun name fields notes e he ↦ by
      obtain ⟨_, args, _, _, he, -⟩ := Traced.bind_eq_ok.mp he
      obtain ⟨desc, _, he⟩ := Traced.ofExcept_bind_eq_ok.mp he
      rw [← (Traced.pure_eq_ok.mp he).2]
    types := describedTypes_named }

end Keywords

/-! ## Remapping -/

namespace Remap

variable {c : Catalogue}

/-- Functions are stored under the names that they have after remapping. -/
theorem functions_named (mode : RemapMode) (c : Catalogue) :
    Remaps (Assoc.Named Function.name) (functions mode c) := by
  rw [functions]
  refine (Outcome.any _).bind fun fs _ ↦ .ok (Assoc.Named.ofList fun e he ↦ ?_)
  obtain ⟨f, _, rfl⟩ := List.mem_map.mp he
  rfl

theorem constants_named (hc : c.NamedByKeys) :
    Remaps (Assoc.Named Constant.name) (constants c) := by
  refine Outcome.mapM fun e he ↦ ?_
  have he : e ∈ c.constants := (List.mergeSort_perm _ _).mem_iff.mp he
  have hname : Remaps (fun k ↦ k.name = e.2.name) (constant e.2) :=
    (Outcome.any _).bind fun _ _ ↦ .ok rfl
  exact hname.bind fun k hk ↦ .ok (hk.trans (hc.constants e he))

theorem events_named (mode : RemapMode) (hc : c.NamedByKeys) :
    Remaps (Assoc.Named Event.name) (events mode c) := by
  refine Outcome.mapM fun e he ↦ ?_
  have he : e ∈ c.events := (List.mergeSort_perm _ _).mem_iff.mp (List.mem_filter.mp he).1
  have hname : Remaps (fun k ↦ k.name = e.2.name) (event mode e.2) :=
    (Outcome.any _).bind fun _ _ ↦ .ok rfl
  exact hname.bind fun k hk ↦ .ok (hk.trans (hc.events e he))

variable {fs : Assoc Text Function} {cs : Assoc Text Constant} {builtins : Builtins}

/-- What is merged from three sources is stored under its name if it was so before. -/
theorem globalProps_named (fs : Assoc Text Function) (hcs : Assoc.Named Constant.name cs)
    (hb : builtins.NamedByKeys) : Assoc.Named Property.name (globalProps fs cs builtins) := by
  have htable : Assoc.Named Property.name
      [(functionTable, .table (.mk functionTable (fs.mapValues .function)))] := by
    intro e he
    obtain rfl := List.mem_singleton.mp he
    rfl
  have hconstants : Assoc.Named Property.name (cs.mapValues .constant) :=
    hcs.mapValues _ fun _ ↦ rfl
  have hfunctions : Assoc.Named Property.name (builtins.functions.mapValues .function) :=
    hb.functions.mapValues _ fun _ ↦ rfl
  have htables : Assoc.Named Property.name (builtins.tables.mapValues .table) :=
    hb.tables.mapValues _ fun _ ↦ rfl
  exact ((htable.update hconstants).update hfunctions).update htables

theorem globalProps_nested (hfs : Assoc.Named Function.name fs) (hb : builtins.NamedByKeys) :
    ∀ e ∈ globalProps fs cs builtins, e.2.NamedByKeys := by
  intro e he
  rw [globalProps] at he
  rcases Assoc.mem_of_mem_update he with he | he
  · rcases Assoc.mem_of_mem_update he with he | he
    · rcases Assoc.mem_of_mem_update he with he | he
      · obtain rfl := List.mem_singleton.mp he
        refine Table.allNamedByKeys_iff.mpr ⟨hfs.mapValues _ fun _ ↦ rfl, fun e he ↦ ?_⟩
        obtain ⟨f, _, rfl⟩ := List.mem_map.mp he
        trivial
      · obtain ⟨k, _, rfl⟩ := List.mem_map.mp he
        trivial
    · obtain ⟨f, _, rfl⟩ := List.mem_map.mp he
      trivial
  · obtain ⟨t, ht, rfl⟩ := List.mem_map.mp he
    exact hb.nested t ht

/-- A catalogue in which everything is stored under its name has a document of this kind, if it has
one. -/
theorem toDocument_named (mode : RemapMode) (hb : builtins.NamedByKeys) (hc : c.NamedByKeys) :
    Remaps Document.NamedByKeys (c.toDocument mode builtins) := by
  rw [Catalogue.toDocument]
  refine (functions_named mode c).bind fun fs hfs ↦ ?_
  refine (constants_named hc).bind fun cs hcs ↦ ?_
  refine (events_named mode hc).bind fun es hes ↦ .ok ?_
  exact {
    globalTable :=
      Table.namedByKeys_iff.mpr ⟨globalProps_named fs hcs hb, globalProps_nested hfs hb⟩
    types := hb.types
    classes := hb.classes
    members := hb.members
    events := hes }

end Remap

namespace Build

/-- Everything in a catalogue is stored under its name, and so is everything in the document that it
is remapped to, in either mode and with the standard built-in definitions; the outputs of this
document show keys. -/
def NamedThroughout (c : Catalogue) : Prop :=
  c.NamedByKeys ∧ ∀ mode d, (remapped { mode } Builtins.standard c).result = .ok d →
    d.NamedByKeys ∧ d.ShowsKeys

theorem namedThroughout {c : Catalogue} (hc : c.NamedByKeys) : NamedThroughout c := by
  refine ⟨hc, fun mode d h ↦ ?_⟩
  rw [remapped_result] at h
  obtain ⟨d', hremap, hoverride⟩ := bind_eq_ok.mp h
  obtain rfl : d' = d := Except.ok.inj (mapError_eq_ok.mp hoverride)
  have hd := (Remap.toDocument_named mode Builtins.standard_named hc).of_ok
    (mapError_eq_ok.mp hremap)
  exact ⟨hd, hd.showsKeys⟩

/-- Keys and names agree from every keyword document to the outputs, whatever is known of effects. -/
theorem extracted_named (effects : Catalogue.EffectTable) :
    (∀ root notes c, Keywords.ofTree effects root = ⟨notes, .ok c⟩ → NamedThroughout c) ∧
      ∀ data notes c, Keywords.ofData effects data = ⟨notes, .ok c⟩ → NamedThroughout c :=
  ⟨fun _ _ _ h ↦ namedThroughout (Keywords.ofTree_named h),
    fun _ _ _ h ↦ namedThroughout (Keywords.ofData_named h)⟩

end Build

end ScriptDefs
