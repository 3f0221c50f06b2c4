import ScriptDefs.Build
import ScriptDefs.Proofs.Remap.Sites
import ScriptDefs.Proofs.Traced

/-!
# The two modes side by side

A catalogue is remapped in strict and in loose mode with the same outcome, and the two documents
differ only where an argument of a surviving function or event of the catalogue has a number as its
only type: there a number in the one is numeric in the other. The same is left after any patches.
-/

namespace ScriptDefs

/-! ## Global tables -/

namespace Remap

theorem keys_of_mapM {α β ε : Type} {f : α → Except ε β} {m : Assoc Text α} {n : Assoc Text β}
    (h : (m.mapM fun e ↦ do return (e.1, ← f e.2)) = .ok n) : Assoc.keys n = Assoc.keys m := by
  induction m generalizing n with
  | nil =>
    cases h
    rfl
  | cons e m ih =>
    rw [List.mapM_cons, bind_eq_ok] at h
    obtain ⟨e', he, h⟩ := h
    obtain ⟨n', hn, h⟩ := bind_eq_ok.mp h
    obtain ⟨b, _, hb⟩ := bind_eq_ok.mp he
    cases h
    cases hb
    rw [Assoc.keys_cons, ih hn]
    rfl

/-- Constants keep their names. -/
theorem mem_keys_constants {c : Catalogue} {cs : Assoc Text Constant}
    (h : constants c = .ok cs) (key : Text) :
    key ∈ Assoc.keys cs ↔ key ∈ Assoc.keys c.constants := by
  rw [keys_of_mapM h]
  exact ((List.mergeSort_perm c.constants _).map _).mem_iff

section FirstEntry

variable {key : Text} {n₁ n₂ n₃ : Assoc Text Property}

theorem updates_of_notMem (p : Property) (h₁ : key ∉ Assoc.keys n₁) (h₂ : key ∉ Assoc.keys n₂)
    (h₃ : key ∉ Assoc.keys n₃) :
    ((Assoc.update [(key, p)] n₁).update n₂).update n₃ =
      (key, p) :: ((Assoc.update [] n₁).update n₂).update n₃ := by
  rw [Assoc.update_cons_of_notMem p _ h₁, Assoc.update_cons_of_notMem p _ h₂,
    Assoc.update_cons_of_notMem p _ h₃]

theorem updates_of_mem (p p' : Property)
    (h : key ∈ Assoc.keys n₁ ∨ key ∈ Assoc.keys n₂ ∨ key ∈ Assoc.keys n₃) :
    ((Assoc.update [(key, p)] n₁).update n₂).update n₃ =
      ((Assoc.update [(key, p')] n₁).update n₂).update n₃ := by
  by_cases h₁ : key ∈ Assoc.keys n₁
  · rw [Assoc.update_cons_of_mem p p' _ h₁]
  rw [Assoc.update_cons_of_notMem p _ h₁, Assoc.update_cons_of_notMem p' _ h₁]
  by_cases h₂ : key ∈ Assoc.keys n₂
  · rw [Assoc.update_cons_of_mem p p' _ h₂]
  rw [Assoc.update_cons_of_notMem p _ h₂, Assoc.update_cons_of_notMem p' _ h₂]
  exact Assoc.update_cons_of_mem p p' _ ((h.resolve_left h₁).resolve_left h₂)

end FirstEntry

/-- The table of functions comes first if it is kept. -/
theorem globalProps_of_kept {builtins : Builtins} {c : Catalogue} {cs : Assoc Text Constant}
    (hcs : constants c = .ok cs) (h : KeepsFunctions builtins c) :
    ∃ rest, ∀ fs : Assoc Text Function, globalProps fs cs builtins =
      (functionTable, .table (.mk functionTable (fs.mapValues .function))) :: rest := by
  obtain ⟨hconstants, hfunctions, htables⟩ := h
  rw [← mem_keys_constants hcs] at hconstants
  exact ⟨_, fun fs ↦ updates_of_notMem _ (by simpa using hconstants) (by simpa using hfunctions)
    (by simpa using htables)⟩

/-- The functions do not matter if their table is not kept. -/
theorem globalProps_of_not_kept {builtins : Builtins} {c : Catalogue} {cs : Assoc Text Constant}
    (hcs : constants c = .ok cs) (h : ¬ KeepsFunctions builtins c) (fs fs' : Assoc Text Function) :
    globalProps fs cs builtins = globalProps fs' cs builtins := by
  apply updates_of_mem
  rw [Assoc.keys_mapValues, Assoc.keys_mapValues, Assoc.keys_mapValues, mem_keys_constants hcs]
  rw [KeepsFunctions] at h
  tauto

/-! ## Documents in both modes -/

/-- The functions of a catalogue have names of their own. -/
theorem nodup_keys_functions {mode : RemapMode} {c : Catalogue} {fs : Assoc Text Function}
    (h : functions mode c = .ok fs) : (Assoc.keys fs).Nodup := by
  obtain ⟨_, _, hfs⟩ := bind_eq_ok.mp h
  cases hfs
  exact Assoc.nodup_keys_ofList _

/-- The events of a catalogue keep their names. -/
theorem nodup_keys_events {mode : RemapMode} {c : Catalogue} {es : Assoc Text Event}
    (h : events mode c = .ok es) (hc : (Assoc.keys c.events).Nodup) : (Assoc.keys es).Nodup := by
  rw [keys_of_mapM h]
  have hperm : (Assoc.keys c.events.sorted).Perm (Assoc.keys c.events) :=
    (List.mergeSort_perm c.events _).map _
  exact (hperm.nodup_iff.mpr hc).sublist (List.filter_sublist.map _)

variable {builtins : Builtins} {c : Catalogue} {fs fs' : Assoc Text Function}
  {cs : Assoc Text Constant} {es es' : Assoc Text Event}

/-- The document of remapped definitions. -/
def documentOf (builtins : Builtins) (fs : Assoc Text Function) (cs : Assoc Text Constant)
    (es : Assoc Text Event) : Document where
  globalTable := .mk globalName (globalProps fs cs builtins)
  types := builtins.types
  classes := builtins.classes
  events := es

/-- The documents of both modes differ at sites of numbers. -/
theorem documentOf_reworded (hfs : functions .strict c = .ok fs) (hcs : constants c = .ok cs)
    (hes : events .strict c = .ok es) (hf : EntriesRelated (fun _ ↦ Function.Widened) fs fs')
    (he : EntriesRelated (fun _ ↦ Event.Widened) es es') :
    NumbersReworded (NumberSite builtins c) Document.toDatum (documentOf builtins fs cs es)
      (documentOf builtins fs' cs es') := by
  have hevents : MapReworded SimpleType.number.name SimpleType.numeric.name
      (Sites.below (NumberSite builtins c) (.key (.text "events"))) Event.toDatum es es' :=
    he.mono_mem fun name e e' hmem h ↦ h.reworded.mono fun a ha ↦ .event hes hmem ha
  have hglobal : MapReworded SimpleType.number.name SimpleType.numeric.name
      ((Sites.below (NumberSite builtins c) (.key (.text "global"))).below (.key (.text "props")))
      Property.toDatum (globalProps fs cs builtins) (globalProps fs' cs builtins) := by
    -- a later definition under the name of the table takes its place with all functions in it
    by_cases hkept : KeepsFunctions builtins c
    · obtain ⟨rest, hrest⟩ := globalProps_of_kept hcs hkept
      rw [hrest, hrest]
      refine .cons (Table.toDatum_reworded functionTable ?_) (MapReworded.refl rest)
      refine (hf.mono_mem fun name f f' hmem h ↦ ?_).mapValues fun _ _ _ h ↦ h
      exact h.reworded.mono fun a ha ↦ .function hfs hkept hmem ha
    · rw [globalProps_of_not_kept hcs hkept fs fs']
      exact MapReworded.refl _
  exact .object (.cons (Table.toDatum_reworded globalName hglobal) (.cons (.same _ _)
    (.cons (.same _ _) (.cons hevents.toDatum .nil))))

/-- At every site of a number, the documents of both modes do differ. -/
theorem documentOf_numberAt (hfs : functions .strict c = .ok fs) (hcs : constants c = .ok cs)
    (hes : events .strict c = .ok es) (hf : EntriesRelated (fun _ ↦ Function.Widened) fs fs')
    (he : EntriesRelated (fun _ ↦ Event.Widened) es es') (hc : (Assoc.keys c.events).Nodup)
    {a : Address} (ha : NumberSite builtins c a) :
    NumberAt a (documentOf builtins fs cs es).toDatum (documentOf builtins fs' cs es').toDatum := by
  rw [Document.toDatum, Document.toDatum]
  cases ha with
  | @function functions' name f a hfunctions hkept hmem ha =>
    rw [hfs] at hfunctions
    cases hfunctions
    obtain ⟨rest, hrest⟩ := globalProps_of_kept hcs hkept
    have hprops : EntriesRelated (fun _ p p' ↦ ∃ f f', p = .function f ∧ p' = .function f' ∧
        Function.Widened f f') (fs.mapValues Property.function) (fs'.mapValues Property.function) :=
      hf.mapValues fun _ f f' h ↦ ⟨f, f', rfl, rfl, h⟩
    have hnodup : (Assoc.keys (fs.mapValues Property.function)).Nodup := by
      rw [Assoc.keys_mapValues]
      exact nodup_keys_functions hfs
    have htable : NumberAt (.key (.text "props") :: .key (.text name) :: a)
        (Table.mk functionTable (fs.mapValues Property.function)).toDatum
        (Table.mk functionTable (fs'.mapValues Property.function)).toDatum := by
      refine .table (.entry hprops hnodup (x := .function f) (List.mem_map_of_mem hmem) ?_)
      rintro _ ⟨_, f', heq, rfl, hwidened⟩
      cases heq
      exact hwidened.numberAt ha
    refine .key (by simp; rfl) (by simp; rfl) (NumberAt.table ?_)
    rw [hrest, hrest, Datum.object, Datum.object]
    exact .key (by simp [Assoc.mapValues]; rfl) (by simp [Assoc.mapValues]; rfl) htable
  | @event events' name e a hevents hmem ha =>
    rw [hes] at hevents
    cases hevents
    exact .key (by simp; rfl) (by simp; rfl) (.entry he (nodup_keys_events hes hc) hmem
      fun _ h ↦ h.numberAt ha)

/-- The document of a catalogue in both modes. -/
theorem toDocument_modes (builtins : Builtins) (c : Catalogue) :
    SameOutcome (fun d d' ↦ NumbersReworded (NumberSite builtins c) Document.toDatum d d' ∧
        ((Assoc.keys c.events).Nodup →
          ∀ a, NumberSite builtins c a → NumberAt a d.toDatum d'.toDatum))
      (c.toDocument .strict builtins) (c.toDocument .loose builtins) := by
  rw [Catalogue.toDocument, Catalogue.toDocument]
  refine (functions_widened c).bind_ok fun fs fs' hfs _ hf ↦ ?_
  refine .bind_same _ fun cs hcs ↦ ?_
  refine (events_widened c).bind_ok fun es es' hes _ he ↦ .ok ⟨?_, ?_⟩
  · exact documentOf_reworded hfs hcs hes hf he
  · exact fun hc a ha ↦ documentOf_numberAt hfs hcs hes hf he hc ha

-- The argument of an event that is declared as a float.
example :
    let c : Catalogue :=
      { events := [("touch", ⟨"touch", [⟨"x", .text "float", .text []⟩], .text [], [], false⟩)] }
    let a : Address :=
      [.key (.text "events"), .key (.text "touch"), .key (.text "args"), .item 0 1,
        .key (.text "type"), .item 0 1, .key (.text "value")]
    (c.toDocument .strict {}).map (·.toDatum.find? a) = .ok (some (.text "number")) ∧
      (c.toDocument .loose {}).map (·.toDatum.find? a) = .ok (some (.text "numeric")) := by
  intro c a
  exact ⟨by cbv, by cbv⟩

end Remap

/-! ## Patched documents -/

namespace Build

/-- A catalogue is remapped to its document, overridden. -/
theorem remapped_result (options : BuildOptions) (builtins : Builtins) (c : Catalogue) :
    (remapped options builtins c).result =
      (c.toDocument options.mode builtins).mapError .remap >>= fun d ↦
        (d.overridden options.documentPatches).mapError .override := by
  have hsteps : (remapped options builtins c).result =
      (Remap.functions options.mode c).mapError .remap >>= fun _ ↦
        (c.toDocument options.mode builtins).mapError .remap >>= fun d ↦
          (d.overridden options.documentPatches).mapError .override := by
    simp only [remapped, Traced.result_bind, Traced.ofExcept, Traced.note, Traced.mapError,
      loggedOverride, ok_bind]
  rw [hsteps, Catalogue.toDocument]
  cases Remap.functions options.mode c with
  | error e => rfl
  | ok fs => rw [mapError_ok, ok_bind, ok_bind]

/-- In strict and in loose mode a catalogue is remapped with the same error or to documents with the
same plain form, but for numbers in the one that are numeric in the other: the values of the only
types of arguments of functions and events of the catalogue. Without patches these are all of them,
if no two events have the same name. -/
theorem remapped_modes (options : BuildOptions) (builtins : Builtins) (c : Catalogue) :
    let strict := (remapped { options with mode := .strict } builtins c).result
    let loose := (remapped { options with mode := .loose } builtins c).result
    (∀ e, strict = .error e ↔ loose = .error e) ∧
    ∀ d d', strict = .ok d → loose = .ok d' →
      NumbersReworded (Remap.NumberSite builtins c) Document.toDatum d d' ∧
      (options.documentPatches = [] → (Assoc.keys c.events).Nodup →
        ∀ a, Remap.NumberSite builtins c a → NumberAt a d.toDatum d'.toDatum) := by
  intro strict loose
  have hmodes := (Remap.toDocument_modes builtins c).mapError BuildError.remap
  have houtcome : SameOutcome (fun d d' ↦
      NumbersReworded (Remap.NumberSite builtins c) Document.toDatum d d' ∧
      (options.documentPatches = [] → (Assoc.keys c.events).Nodup →
        ∀ a, Remap.NumberSite builtins c a → NumberAt a d.toDatum d'.toDatum)) strict loose := by
    have hstrict : strict = _ := remapped_result { options with mode := .strict } builtins c
    have hloose : loose = _ := remapped_result { options with mode := .loose } builtins c
    rw [hstrict, hloose]
    refine hmodes.bind fun d d' ⟨hreworded, hnumbers⟩ ↦ ?_
    cases hpatches : options.documentPatches with
    | nil => exact .ok ⟨hreworded, fun _ ↦ hnumbers⟩
    | cons p patches =>
      have hoverridden := Document.overridden_reworded (fun _ ↦ Remap.NumberSite.site)
        hreworded (p :: patches)
      refine (hoverridden.mapError BuildError.override).mono fun _ _ h ↦ ⟨h, fun hnil ↦ ?_⟩
      cases hnil
  exact ⟨houtcome.error_iff, fun d d' ↦ houtcome.of_ok⟩

end Build

end ScriptDefs
