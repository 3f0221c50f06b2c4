import Mathlib.Data.List.Permutation
import ScriptDefs.Proofs.Data.Merged
import ScriptDefs.Proofs.Remap.Modes

/-!
# Where definitions stand in a document

The global table of a catalogue is merged from four sources: the table of its functions, its
constants, and the functions and tables that are built in. Here is which of them each key belongs to
and in which order the keys stand, and the same for the functions in their table and for events.
-/

namespace ScriptDefs

namespace Remap

/-! ## Layouts -/

/-- The name of a function in the table of functions: without one `ll` at the start. -/
def shortName (f : Catalogue.Function) : Text := f.name.dropStart functionPrefix

/-- The last function of a catalogue that has a name in the table of functions. -/
def lastNamed? (c : Catalogue) (name : Text) : Option Catalogue.Function :=
  c.functions.values.reverse.find? fun f ↦ shortName f = name

/-- The functions of a catalogue by their short names: each name stands where it occurs first, with
the last function that has it. If all names differ and begin with `ll`, no function is lost. -/
structure FunctionTable (mode : RemapMode) (c : Catalogue) (fs : Assoc Text Function) : Prop where
  keys_eq : Assoc.keys fs = (c.functions.values.map shortName).eraseDups
  entries : ∀ e ∈ fs, ∃ f, lastNamed? c e.1 = some f ∧ function mode f = .ok e.2
  one_to_one : (c.functions.values.map (·.name)).Nodup →
    (∀ f ∈ c.functions.values, functionPrefix <+: f.name) →
    List.Forall₂ (fun f e ↦ f.name = functionPrefix ++ e.1 ∧ function mode f = .ok e.2)
      c.functions.values fs

/-- What is made of the entries of a map whose keys are kept, in the order of these keys. -/
structure SortedFrom {α β : Type} (kept : Text → Bool) (made : α → β → Prop) (m : Assoc Text α)
    (n : Assoc Text β) : Prop where
  keys_perm : (Assoc.keys n).Perm ((Assoc.keys m).filter kept)
  keys_ascend : (Assoc.keys n).Pairwise fun s t ↦
    s.map CodePoint.toNat ≤ t.map CodePoint.toNat
  entries : ∀ e ∈ n, ∃ a, m.lookup e.1 = some a ∧ made a e.2

/-- The properties of the global table: the table of functions, the constants, then what is built in
and has a new name. Under a name that several of them have, a built-in table wins over a built-in
function, that over a constant, and that over the table of functions. -/
structure GlobalTable (builtins : Builtins) (fs : Assoc Text Function) (cs : Assoc Text Constant)
    (props : Assoc Text Property) : Prop where
  keys_eq : Assoc.keys props =
    functionTable :: (Assoc.keys cs).filter (· ≠ functionTable) ++
      (Assoc.keys builtins.functions).filter (fun k ↦ k ≠ functionTable ∧ k ∉ Assoc.keys cs) ++
      (Assoc.keys builtins.tables).filter fun k ↦
        k ≠ functionTable ∧ k ∉ Assoc.keys cs ∧ k ∉ Assoc.keys builtins.functions
  entry : ∀ key, props.lookup key =
    ((builtins.tables.lookup key).map .table).or
      (((builtins.functions.lookup key).map .function).or
        (((cs.lookup key).map .constant).or
          (if key = functionTable then
            some (.table (.mk functionTable (fs.mapValues .function))) else none)))

/-- A document as it is made from a catalogue and built-in definitions. -/
structure Layout (mode : RemapMode) (builtins : Builtins) (c : Catalogue) (d : Document)
    (fs : Assoc Text Function) (cs : Assoc Text Constant) : Prop where
  functions : FunctionTable mode c fs
  constants : SortedFrom (fun _ ↦ true) (fun x y ↦ constant x = .ok y) c.constants cs
  globals : GlobalTable builtins fs cs d.globalTable.props
  mem_globals : ∀ key, key ∈ Assoc.keys d.globalTable.props ↔
    key = functionTable ∨ key ∈ Assoc.keys c.constants ∨ key ∈ Assoc.keys builtins.functions ∨
      key ∈ Assoc.keys builtins.tables
  events : SortedFrom (fun name ↦ !skippedStart.isPrefixOf name)
    (fun x y ↦ event mode x = .ok y) c.events d.events
  types : d.types = builtins.types
  classes : d.classes = builtins.classes

/-! ## The table of functions -/

variable {mode : RemapMode} {c : Catalogue}

/-- A function is remapped under its short name. -/
theorem name_of_function {f : Catalogue.Function} {g : Function} (h : function mode f = .ok g) :
    g.name = shortName f := by
  obtain ⟨args, _, h⟩ := bind_eq_ok.mp h
  obtain ⟨results, _, h⟩ := bind_eq_ok.mp h
  cases h
  rfl

theorem append_shortName {f : Catalogue.Function} (h : functionPrefix <+: f.name) :
    functionPrefix ++ shortName f = f.name := by
  obtain ⟨rest, hrest⟩ := h
  have hsplit : functionPrefix.isPrefixOf? f.name = some rest :=
    List.isPrefixOf?_eq_some_iff_append_eq.mpr hrest
  rw [shortName, Text.dropStart, hsplit, Option.getD_some, hrest]

section Remapped

variable {fs : List Catalogue.Function} {gs : List Function}
  (h : List.Forall₂ (fun f g ↦ function mode f = .ok g) fs gs)
include h

theorem map_name_of_remapped : gs.map (·.name) = fs.map shortName := by
  induction h with
  | nil => rfl
  | cons hfg _ ih => rw [List.map_cons, List.map_cons, ih, name_of_function hfg]

/-- The first remapped function with a name is that of the first function with this short name. -/
theorem find?_of_lookup {name : Text} {g : Function}
    (hg : List.lookup name (gs.map fun g ↦ (g.name, g)) = some g) :
    ∃ f, fs.find? (fun f ↦ shortName f = name) = some f ∧ function mode f = .ok g := by
  induction h with
  | nil => cases hg
  | @cons f g' fs gs hfg _ ih =>
    rw [List.map_cons, Assoc.lookup_cons_eq, name_of_function hfg] at hg
    rw [List.find?_cons]
    by_cases hname : shortName f = name
    · rw [if_pos hname] at hg
      cases hg
      exact ⟨f, by simp [hname], hfg⟩
    · rw [if_neg hname] at hg
      obtain ⟨f', hf', hg'⟩ := ih hg
      exact ⟨f', by simp [hname, hf'], hg'⟩

end Remapped

theorem functionTable_of_functions {fs : Assoc Text Function} (h : functions mode c = .ok fs) :
    FunctionTable mode c fs := by
  obtain ⟨gs, hgs, h⟩ := bind_eq_ok.mp h
  have hremapped := forall₂_of_mapM hgs
  cases h
  have hkeys : Assoc.keys (gs.map fun g ↦ (g.name, g)) = c.functions.values.map shortName := by
    rw [← map_name_of_remapped hremapped, Assoc.keys, List.map_map]
    rfl
  refine ⟨?_, ?_, ?_⟩
  · rw [Assoc.keys_ofList, hkeys]
  · intro e he
    have hlast := (Assoc.lookup_eq_some_iff_mem (Assoc.nodup_keys_ofList _)).mpr he
    rw [Assoc.lookup_ofList, ← List.map_reverse] at hlast
    exact find?_of_lookup (List.forall₂_reverse_iff.mpr hremapped) hlast
  · intro hnames hll
    have happend : c.functions.values.map (·.name) =
        (c.functions.values.map shortName).map (functionPrefix ++ ·) := by
      rw [List.map_map]
      exact List.map_congr_left fun f hf ↦ (append_shortName (hll f hf)).symm
    have hshort : (c.functions.values.map shortName).Nodup := by
      rw [happend] at hnames
      exact List.Nodup.of_map _ hnames
    rw [Assoc.ofList_of_nodup (hkeys ▸ hshort), List.forall₂_map_right_iff]
    have hpairs := (List.forall₂_and_left _ _).mpr ⟨hll, hremapped⟩
    refine hpairs.imp ?_
    rintro f g ⟨hf, hg⟩
    exact ⟨by rw [name_of_function hg, append_shortName hf], hg⟩

/-! ## Constants and events -/

theorem sortedFrom_of_mapM {α β ε : Type} {f : α → Except ε β} {kept : Text → Bool}
    {m : Assoc Text α} {n : Assoc Text β} (hm : (Assoc.keys m).Nodup)
    (h : ((m.sorted.filter fun e ↦ kept e.1).mapM fun e ↦ do return (e.1, ← f e.2)) = .ok n) :
    SortedFrom kept (fun a b ↦ f a = .ok b) m n := by
  have hkeys : Assoc.keys n = (Assoc.keys m.sorted).filter kept := by
    rw [keys_of_mapM h, Assoc.keys_filter]
  refine ⟨?_, ?_, ?_⟩
  · rw [hkeys]
    exact (Assoc.keys_sorted_perm m).filter kept
  · rw [hkeys]
    exact (Assoc.pairwise_keys_sorted m).filter kept
  · have hentries : Outcome (fun n : Assoc Text β ↦ ∀ e ∈ n, ∃ a,
        m.lookup e.1 = some a ∧ f a = .ok e.2) (fun _ : ε ↦ True)
        ((m.sorted.filter fun e ↦ kept e.1).mapM fun e ↦ do return (e.1, ← f e.2)) := by
      refine Outcome.mapM fun e he ↦ ?_
      have hmem : e ∈ m := Assoc.mem_sorted.mp (List.mem_filter.mp he).1
      cases hvalue : f e.2 with
      | error x => exact .error trivial
      | ok b => exact .ok ⟨e.2, (Assoc.lookup_eq_some_iff_mem hm).mpr hmem, hvalue⟩
    exact hentries.of_ok h

/-! ## The global table -/

theorem globalTable_of_globalProps {builtins : Builtins} {cs : Assoc Text Constant}
    (fs : Assoc Text Function) (hcs : (Assoc.keys cs).Nodup)
    (hfunctions : (Assoc.keys builtins.functions).Nodup)
    (htables : (Assoc.keys builtins.tables).Nodup) :
    GlobalTable builtins fs cs (globalProps fs cs builtins) := by
  have hcs' : (Assoc.keys (cs.mapValues Property.constant)).Nodup := by simpa using hcs
  have hfunctions' : (Assoc.keys (builtins.functions.mapValues Property.function)).Nodup := by
    simpa using hfunctions
  have htables' : (Assoc.keys (builtins.tables.mapValues Property.table)).Nodup := by
    simpa using htables
  constructor
  · rw [globalProps, Assoc.keys_update htables']
    simp only [Assoc.mem_keys_update]
    rw [Assoc.keys_update hfunctions']
    simp only [Assoc.mem_keys_update]
    rw [Assoc.keys_update hcs']
    simp [and_assoc]
  · intro key
    rw [globalProps, Assoc.lookup_update htables', Assoc.lookup_update hfunctions',
      Assoc.lookup_update hcs', Assoc.lookup_mapValues, Assoc.lookup_mapValues,
      Assoc.lookup_mapValues, Assoc.lookup_cons_eq]
    simp [eq_comm]

/-- The document of a catalogue is laid out as it should be. -/
theorem toDocument_layout {builtins : Builtins} (hconstants : (Assoc.keys c.constants).Nodup)
    (hevents : (Assoc.keys c.events).Nodup) (hfunctions : (Assoc.keys builtins.functions).Nodup)
    (htables : (Assoc.keys builtins.tables).Nodup) {d : Document}
    (h : c.toDocument mode builtins = .ok d) : ∃ fs cs, Layout mode builtins c d fs cs := by
  obtain ⟨fs, hfs, h⟩ := bind_eq_ok.mp h
  obtain ⟨cs, hcs, h⟩ := bind_eq_ok.mp h
  obtain ⟨es, hes, h⟩ := bind_eq_ok.mp h
  have hkeys : ∀ key, key ∈ Assoc.keys cs ↔ key ∈ Assoc.keys c.constants := mem_keys_constants hcs
  have hsorted : SortedFrom (fun _ ↦ true) (fun x y ↦ constant x = .ok y) c.constants cs := by
    apply sortedFrom_of_mapM hconstants
    rw [List.filter_true]
    exact hcs
  have hnodup : (Assoc.keys cs).Nodup := by
    rw [hsorted.keys_perm.nodup_iff, List.filter_true]
    exact hconstants
  cases h
  exact ⟨fs, cs, {
    functions := functionTable_of_functions hfs
    constants := hsorted
    globals := globalTable_of_globalProps fs hnodup hfunctions htables
    mem_globals := by
      intro key
      rw [← hkeys, Table.props, globalProps]
      simp [Assoc.mem_keys_update, or_assoc]
    events := sortedFrom_of_mapM hevents hes
    types := rfl
    classes := rfl }⟩

end Remap

/-- Without patches, every key of the global table is the table of functions, a constant or built in,
with the entry of the one that wins, and the keys stand in the order of these sources; functions stand
under their short names, events without those of states are sorted, and named types and classes are
the ones that are built in. -/
theorem Build.remapped_layout (mode : RemapMode) (builtins : Builtins) (c : Catalogue)
    (hconstants : (Assoc.keys c.constants).Nodup) (hevents : (Assoc.keys c.events).Nodup)
    (hfunctions : (Assoc.keys builtins.functions).Nodup)
    (htables : (Assoc.keys builtins.tables).Nodup) (d : Document)
    (h : (remapped { mode } builtins c).result = .ok d) :
    ∃ fs cs, Remap.Layout mode builtins c d fs cs := by
  rw [remapped_result] at h
  obtain ⟨d', hremap, hoverride⟩ := bind_eq_ok.mp h
  obtain rfl : d' = d := Except.ok.inj (mapError_eq_ok.mp hoverride)
  exact Remap.toDocument_layout hconstants hevents hfunctions htables (mapError_eq_ok.mp hremap)

namespace Crowded

/-- A function of a catalogue without arguments. -/
def declared (name : Text) : Catalogue.Function where
  name := name
  args := []
  result := .null
  desc := .text []
  energy := .null
  sleep := .null
  mustUse := false
  link := none

/-- A constant of a catalogue. -/
def value (name : Text) : Catalogue.Constant where
  name := name
  type := .text "integer"
  valueRaw := none
  value := .null
  desc := .text []
  link := []

/-- An event of a catalogue without arguments. -/
def event (name : Text) : Catalogue.Event := ⟨name, [], .text [], [], false⟩

/-- A catalogue with two functions of the same short name, with a constant named after the table of
functions, and with an event that is left out. -/
def catalogue : Catalogue where
  functions := [("llSay", declared "llSay"), ("llWait", declared "llWait"), ("Say", declared "Say")]
  constants := [("ll", value "ll"), ("b", value "b"), ("B", value "B")]
  events := [("touch", event "touch"), ("state_entry", event "state_entry"),
    ("attach", event "attach")]

/-- A built-in function. -/
def builtin (name : Text) : Function where
  name := name
  desc := .text []
  link := none
  signatures := [.mk [] []]

/-- A function under the name of a constant, and a table under that of a function. -/
def builtins : Builtins where
  functions := [("uuid", builtin "uuid"), ("b", builtin "b")]
  tables := [("bit32", .mk "bit32" []), ("uuid", .mk "uuid" [])]

/-- What is made of a constant. -/
def constant (name : Text) : Constant where
  name := name
  desc := .text []
  type := .simple .number

/-- The document of the catalogue: the table of functions is gone. -/
def document : Document where
  globalTable := .mk "SLua" [("ll", .constant (constant "ll")), ("B", .constant (constant "B")),
    ("b", .function (builtin "b")), ("uuid", .table (.mk "uuid" [])),
    ("bit32", .table (.mk "bit32" []))]
  types := []
  classes := []
  events := [("attach", ⟨"attach", .text [], [], []⟩), ("touch", ⟨"touch", .text [], [], []⟩)]

theorem remapped_catalogue : (Build.remapped {} builtins catalogue).result = .ok document := by
  have hconstants : catalogue.constants.sorted =
      ([("B", value "B"), ("b", value "b"), ("ll", value "ll")] : List (Text × _)) := by cbv
  have hevents : catalogue.events.sorted =
      ([("attach", event "attach"), ("state_entry", event "state_entry"),
        ("touch", event "touch")] : List (Text × _)) := by cbv
  rw [Build.remapped_result, Catalogue.toDocument, Remap.constants, Remap.events, hconstants,
    hevents]
  rfl

end Crowded

theorem Build.remapped_layout_crowded :
    (remapped {} Crowded.builtins Crowded.catalogue).result = .ok Crowded.document ∧
      ∃ fs cs, Remap.Layout .strict Crowded.builtins Crowded.catalogue Crowded.document fs cs :=
  ⟨Crowded.remapped_catalogue, Build.remapped_layout .strict _ _ (by decide) (by decide) (by decide)
    (by decide) _ Crowded.remapped_catalogue⟩

end ScriptDefs
