import ScriptDefs.Proofs.Keywords.Entries
import ScriptDefs.Proofs.Keywords.Recovery

/-!
# Agreement of the two forms of keyword documents

A table of definitions can be written as a marked-up document and as an indented document. Both have
the same functions, constants and events, and the same diagnostics. The marked-up document writes
costs in digits, and so has no catalogue if a cost has more digits than are converted.
-/

namespace ScriptDefs

namespace Keywords

open Catalogue Markup

/-! ## Sections -/

section Sections

variable {α β : Type} {m : Assoc Text β} (treeFields : β → List (Text × Tree))
  (dataFields : β → Fields)

/-- The definitions of a section as a map. -/
def sectionTree (m : Assoc Text β) : Tree := mapTree (m.mapValues fun b ↦ mapTree (treeFields b))

/-- The definitions of a section as a mapping. -/
def sectionData (m : Assoc Text β) : Datum := .object (m.mapValues fun b ↦ .map (dataFields b))

@[simp] theorem tag_sectionTree (m : Assoc Text β) :
    (sectionTree treeFields m).tag = Text.ofString "map" := rfl

theorem treeDefinitions_sectionTree {fields : List (Text × Tree)} (h : WellKeyed fields)
    {name : Text} (hsection : fields.lookup name = some (sectionTree treeFields m))
    (hm : m.keys.Nodup) :
    treeDefinitions (mapTree fields) name = m.mapValues fun b ↦ mapTree (treeFields b) := by
  have hentries := (wellKeyed_mapValues hm treeFields).entries
  rw [treeDefinitions, treeSection?, h.get?, hsection, sectionTree,
    Option.filter_some_pos (isMap_mapTree _)]
  dsimp only
  rw [hentries]
  exact List.filter_eq_self.mpr (List.forall_mem_map.mpr fun _ _ ↦ rfl)

theorem sectionEntries_mapValues (name : Text) (m : Assoc Text β) :
    sectionEntries name ((m.mapValues fun b ↦ Datum.map (dataFields b)).map
      fun f ↦ (.text f.1, f.2)) = .ok (m.mapValues dataFields) := by
  induction m with
  | nil => rfl
  | cons e m ih =>
    have hentry : entryFields? (.map (dataFields e.2)) = some (dataFields e.2) := rfl
    rw [Assoc.mapValues, List.map_cons, List.map_cons, sectionEntries, hentry, display?_text]
    rw [Assoc.mapValues] at ih
    dsimp only
    rw [ih]
    rfl

theorem dataSection_sectionData {data : Fields} {name : Text}
    (h : data.get name = sectionData dataFields m) :
    dataSection data name = .ok (m.mapValues dataFields) := by
  rw [dataSection, h]
  cases m with
  | nil => rfl
  | cons e m => exact sectionEntries_mapValues dataFields name (e :: m)

/-- Sections agree when their definitions do. -/
theorem section_eq {readTree : Text → Tree → Traced Diagnostic DigitLimit α}
    {readData : Text → Fields → Traced Diagnostic DataError α} {g : β → Tree} {g' : β → Fields}
    (h : ∀ name b, Traced.Agree (readTree name (g b)) (readData name (g' b)))
    {s s' : Section α} (hs : ReadBy readTree (m.mapValues g) s)
    (hs' : ReadBy readData (m.mapValues g') s') : s = s' := by
  induction m generalizing s s' with
  | nil =>
    cases hs
    cases hs'
    rfl
  | cons e m ih =>
    rw [Assoc.mapValues, List.map_cons] at hs hs'
    obtain ⟨x, rest, ⟨hname, hread⟩, hrest, rfl⟩ := List.forall₂_cons_left_iff.mp hs
    obtain ⟨x', rest', ⟨hname', hread'⟩, hrest', rfl⟩ := List.forall₂_cons_left_iff.mp hs'
    obtain ⟨hnotes, hvalue⟩ := h e.1 e.2 _ _ _ _ hread hread'
    rw [ih hrest hrest', Prod.ext (hname.trans hname'.symm) (Prod.ext hvalue hnotes)]

/-- A section has the names of its definitions in their order. -/
theorem keys_entries {γ : Type} {R : Text × γ → Text × α × List Diagnostic → Prop}
    {definitions : Assoc Text γ} {s : Section α} (h : List.Forall₂ R definitions s)
    (hR : ∀ d e, R d e → e.1 = d.1) (hdefinitions : definitions.keys.Nodup) :
    Assoc.keys s.entries = definitions.keys := by
  have hkeys : Assoc.keys (s.map fun e ↦ (e.1, e.2.1)) = definitions.keys := by
    clear hdefinitions
    induction h with
    | nil => rfl
    | cons h _ ih =>
      rw [List.map_cons, Assoc.keys_cons, ih, hR _ _ h]
      rfl
  rw [Section.entries, Assoc.ofList_of_nodup (hkeys ▸ hdefinitions), hkeys]

end Sections

/-! ## Documents -/

theorem treeSection_hasResult {α : Type} {read : Text → Tree → Traced Diagnostic DigitLimit α}
    {root : Tree} {name : Text} {definitions : List (Text × Tree)} :
    HasResult (treeSection root name read definitions).result ↔
      ∀ d ∈ definitions, HasResult (read d.1 d.2).result := by
  rw [treeSection, Traced.result_bind, Traced.result_note, ok_bind]
  exact readSection_hasResult

theorem dataTable_hasResult {α : Type} {read : Text → Fields → Traced Diagnostic DataError α}
    {data : Fields} {name : Text} {definitions : List (Text × Fields)}
    (h : dataSection data name = .ok definitions) :
    HasResult (dataTable read data name).result ↔
      ∀ d ∈ definitions, HasResult (read d.1 d.2).result := by
  rw [dataTable, h, Traced.ofExcept_ok_bind]
  exact readSection_hasResult

/-- A table of definitions: the names in each section differ, and no constant has a name that is
skipped. -/
structure DefinitionTable where
  functions : Assoc Text FunctionEntry
  constants : Assoc Text ConstantEntry
  events : Assoc Text EventEntry
  functions_nodup : functions.keys.Nodup
  constants_nodup : constants.keys.Nodup
  events_nodup : events.keys.Nodup
  not_skipped : ∀ name ∈ constants.keys, name ≠ Text.ofString "default"

namespace DefinitionTable

variable (effects : EffectTable) (t : DefinitionTable)

/-- The sections of a table in a marked-up document. -/
def treeFields : List (Text × Tree) :=
  [
    ("functions", sectionTree FunctionEntry.treeFields t.functions),
    ("constants", sectionTree ConstantEntry.treeFields t.constants),
    ("events", sectionTree EventEntry.treeFields t.events)]

/-- A table as the map of sections of a marked-up document. -/
def toTree : Tree := mapTree t.treeFields

/-- A table as the mapping of sections of an indented document. -/
def toData : Fields :=
  [
    (.text "functions", sectionData FunctionEntry.dataFields t.functions),
    (.text "constants", sectionData ConstantEntry.dataFields t.constants),
    (.text "events", sectionData EventEntry.dataFields t.events)]

/-- No cost has more digits than are converted. -/
def HasShortCosts : Prop := ∀ f ∈ t.functions, f.2.HasShortCosts

/-- No integer constant has more digits than are converted. -/
def HasShortValues : Prop := ∀ c ∈ t.constants, c.2.HasShortValue

theorem wellKeyed : WellKeyed t.treeFields where
  nodup := by simp [treeFields]
  not_key := by simp [treeFields, keyTag]

/-! ### Sections -/

theorem treeFunctions : treeDefinitions t.toTree "functions" =
    t.functions.mapValues fun f ↦ mapTree f.treeFields :=
  treeDefinitions_sectionTree _ t.wellKeyed rfl t.functions_nodup

theorem treeConstants : ((treeDefinitions t.toTree "constants").filter
    fun e ↦ !skippedConstants.contains e.1) =
      t.constants.mapValues fun c ↦ mapTree c.treeFields := by
  have hdefinitions : treeDefinitions t.toTree "constants" =
      t.constants.mapValues fun c ↦ mapTree c.treeFields :=
    treeDefinitions_sectionTree _ t.wellKeyed rfl t.constants_nodup
  rw [hdefinitions, List.filter_eq_self]
  refine List.forall_mem_map.mpr fun c hc ↦ ?_
  have hname := t.not_skipped c.1 (List.mem_map_of_mem hc)
  simpa [skippedConstants] using hname

theorem treeEvents : treeDefinitions t.toTree "events" =
    t.events.mapValues fun e ↦ mapTree e.treeFields :=
  treeDefinitions_sectionTree _ t.wellKeyed rfl t.events_nodup

theorem treeTypes : treeDefinitions t.toTree "types" = [] := by
  have hget : t.toTree.get? "types" = none := t.wellKeyed.get? _
  rw [treeDefinitions, treeSection?, hget]
  rfl

theorem dataFunctions :
    dataSection t.toData "functions" = .ok (t.functions.mapValues FunctionEntry.dataFields) :=
  dataSection_sectionData _ (by simp [toData, Fields.get])

theorem dataConstants :
    dataSection t.toData "constants" = .ok (t.constants.mapValues ConstantEntry.dataFields) :=
  dataSection_sectionData _ (by simp [toData, Fields.get])

theorem dataEvents :
    dataSection t.toData "events" = .ok (t.events.mapValues EventEntry.dataFields) :=
  dataSection_sectionData _ (by simp [toData, Fields.get])

/-! ### Catalogues -/

/-- A marked-up table has a catalogue if its numbers are not too long. -/
theorem ofTree_hasResult :
    HasResult (ofTree effects t.toTree).result ↔ t.HasShortCosts ∧ t.HasShortValues := by
  simp only [ofTree, Traced.result_bind, treeFunctions, treeConstants, treeEvents, treeTypes]
  have hcosts : HasResult (treeSection t.toTree "functions" (treeFunction effects)
      (t.functions.mapValues fun f ↦ mapTree f.treeFields)).result ↔ t.HasShortCosts := by
    rw [treeSection_hasResult, Assoc.mapValues, List.forall_mem_map]
    exact forall₂_congr fun f _ ↦ f.2.treeFunction_hasResult effects f.1
  have hvalues : HasResult (treeSection t.toTree "constants" treeConstant
      (t.constants.mapValues fun c ↦ mapTree c.treeFields)).result ↔ t.HasShortValues := by
    rw [treeSection_hasResult, Assoc.mapValues, List.forall_mem_map]
    exact forall₂_congr fun c _ ↦ c.2.treeConstant_hasResult c.1
  have hevents : HasResult (treeSection t.toTree "events" treeEvent
      (t.events.mapValues fun e ↦ mapTree e.treeFields)).result := by
    rw [treeSection_hasResult, Assoc.mapValues, List.forall_mem_map]
    exact fun _ _ ↦ .ok trivial
  have htypes : HasResult (treeSection t.toTree "types" treeType []).result := .ok trivial
  refine (HasResult.bind_iff fun _ _ ↦ ?_).trans (and_congr_left' hcosts)
  refine (HasResult.bind_iff fun _ _ ↦ iff_true_intro ?_).trans
    ((and_congr_left' hvalues).trans (and_iff_left trivial))
  exact hevents.bind fun _ _ ↦ htypes.bind fun _ _ ↦ .ok trivial

/-- An indented table has a catalogue if its constants are not too long. -/
theorem ofData_hasResult : HasResult (ofData effects t.toData).result ↔ t.HasShortValues := by
  simp only [ofData, Traced.result_bind]
  have hfunctions : HasResult (dataTable (dataFunction effects) t.toData "functions").result := by
    rw [dataTable_hasResult t.dataFunctions, Assoc.mapValues, List.forall_mem_map]
    intro f _
    rw [f.2.dataFunction_eq effects f.1]
    exact .ok trivial
  have hvalues : HasResult (dataTable dataConstant t.toData "constants").result ↔
      t.HasShortValues := by
    rw [dataTable_hasResult t.dataConstants, Assoc.mapValues, List.forall_mem_map]
    refine forall₂_congr fun c _ ↦ ?_
    rw [c.2.dataConstant_eq, ← c.2.treeConstant_hasResult c.1]
    exact HasResult.mapError_iff _
  have hevents : HasResult (dataTable dataEvent t.toData "events").result := by
    rw [dataTable_hasResult t.dataEvents, Assoc.mapValues, List.forall_mem_map]
    intro e _
    rw [e.2.dataEvent_eq e.1]
    exact .ok trivial
  refine (HasResult.bind_iff fun _ _ ↦ ?_).trans (and_iff_right hfunctions)
  refine (HasResult.bind_iff fun _ _ ↦ iff_true_intro ?_).trans
    ((and_congr_left' hvalues).trans (and_iff_left trivial))
  exact hevents.bind fun _ _ ↦ .ok trivial

section Agreement

variable {effects t} {notes notes' : List Note} {c c' : Catalogue}

/-- The catalogue of a marked-up table has the names of the table in their order. -/
theorem names (h : ofTree effects t.toTree = ⟨notes, .ok c⟩) :
    c.functions.keys = t.functions.keys ∧ c.constants.keys = t.constants.keys ∧
      c.events.keys = t.events.keys := by
  have hkeys {α β : Type} {g : β → Tree} {m : Assoc Text β} {s : Section α}
      {read : Text → Tree → Traced Diagnostic DigitLimit α} (h : ReadBy read (m.mapValues g) s)
      (hm : m.keys.Nodup) : s.entries.keys = m.keys := by
    rw [keys_entries h (fun _ _ ↦ And.left) (by simpa using hm), Assoc.keys_mapValues]
  obtain ⟨fs, cs, es, _, hfs, hcs, hes, _, rfl, -⟩ := ofTree_eq_ok h
  rw [treeFunctions] at hfs
  rw [treeConstants] at hcs
  rw [treeEvents] at hes
  exact ⟨hkeys hfs t.functions_nodup, hkeys hcs t.constants_nodup, hkeys hes t.events_nodup⟩

/-- The catalogues of both forms of a table have the same functions, constants and events, and the
same diagnostics. -/
theorem agreement (h : ofTree effects t.toTree = ⟨notes, .ok c⟩)
    (h' : ofData effects t.toData = ⟨notes', .ok c'⟩) :
    c.functions = c'.functions ∧ c.constants = c'.constants ∧ c.events = c'.events ∧
      diagnosticsIn notes = diagnosticsIn notes' := by
  obtain ⟨fs, cs, es, _, hfs, hcs, hes, _, rfl, hnotes⟩ := ofTree_eq_ok h
  obtain ⟨_, _, _, hfunctions, hconstants, hevents, fs', cs', es', hfs', hcs', hes', rfl, hnotes'⟩ :=
    ofData_eq_ok h'
  cases t.dataFunctions.symm.trans hfunctions
  cases t.dataConstants.symm.trans hconstants
  cases t.dataEvents.symm.trans hevents
  rw [treeFunctions] at hfs
  rw [treeConstants] at hcs
  rw [treeEvents] at hes
  obtain rfl := section_eq (fun name f ↦ f.agree effects name) hfs hfs'
  obtain rfl := section_eq (fun name c ↦ c.agree name) hcs hcs'
  obtain rfl := section_eq (fun name e ↦ e.agree name) hes hes'
  exact ⟨rfl, rfl, rfl, hnotes.trans hnotes'.symm⟩

end Agreement

/-- Whatever a table of definitions holds, its marked-up form and its indented form have the same
functions, constants and events, all of them in the order of the table, and the same diagnostics.
Neither has a catalogue if an integer constant has more digits than are converted; if a cost has, the
indented form still has a catalogue and the marked-up form has none. -/
theorem forms_agree :
    (HasResult (ofTree effects t.toTree).result ↔ t.HasShortCosts ∧ t.HasShortValues) ∧
    (HasResult (ofData effects t.toData).result ↔ t.HasShortValues) ∧
    ∀ notes c notes' c', ofTree effects t.toTree = ⟨notes, .ok c⟩ →
      ofData effects t.toData = ⟨notes', .ok c'⟩ →
      (c.functions.keys = t.functions.keys ∧ c.constants.keys = t.constants.keys ∧
        c.events.keys = t.events.keys) ∧
      c.functions = c'.functions ∧ c.constants = c'.constants ∧ c.events = c'.events ∧
      diagnosticsIn notes = diagnosticsIn notes' :=
  ⟨t.ofTree_hasResult effects, t.ofData_hasResult effects,
    fun _ _ _ _ h h' ↦ ⟨names h, agreement h h'⟩⟩

/-- A table with one function, whose energy has one digit more than are converted. -/
def costly : DefinitionTable where
  functions := [("llFoo", {
    args := []
    result := "void"
    energy := (Nat.pow 10 DigitLimit.limit : Nat)
    sleep := 0
    tooltip := [] })]
  constants := []
  events := []
  functions_nodup := List.pairwise_singleton _ _
  constants_nodup := List.nodup_nil
  events_nodup := List.nodup_nil
  not_skipped := List.forall_mem_nil _

/-- A cost can be too long for the marked-up form of a table and not for the indented form. -/
theorem ofTree_refuses_cost :
    ¬ ∀ effects (t : DefinitionTable), HasResult (ofData effects t.toData).result →
      HasResult (ofTree effects t.toTree).result := by
  intro h
  have hvalues : costly.HasShortValues := List.forall_mem_nil _
  have htree := h [] costly ((costly.ofData_hasResult []).mpr hvalues)
  have hcosts := ((costly.ofTree_hasResult []).mp htree).1
  have henergy : IsShort (Nat.pow 10 DigitLimit.limit : Nat) :=
    (hcosts _ List.mem_cons_self).1
  rw [IsShort, Int.natAbs_natCast] at henergy
  exact Nat.lt_irrefl _ henergy

end DefinitionTable

end Keywords

end ScriptDefs
