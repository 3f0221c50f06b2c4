import ScriptDefs.Proofs.Catalogue.Accepted
import ScriptDefs.Proofs.Data.Assoc
import ScriptDefs.Proofs.Types.WellFormed
import ScriptDefs.Remap

/-!
# Well-formed documents from catalogues

A well-formed catalogue, merged with well-formed built-in definitions, has a well-formed typed
document.
-/

namespace ScriptDefs

variable (given : Datum → Prop)

/-- All built-in definitions are well-formed. -/
structure Builtins.WellFormed (b : Builtins) : Prop where
  functions : ∀ e ∈ b.functions, e.2.WellFormed given
  tables : ∀ e ∈ b.tables, e.2.WellFormed given
  classes : ∀ e ∈ b.classes, e.2.WellFormed given
  types : ∀ e ∈ b.types, e.2.WellFormed given

theorem BaseType.allWellFormed_map_simple (types : List SimpleType) :
    BaseType.AllWellFormed given (types.map .simple) := by
  induction types with
  | nil => trivial
  | cons s types ih => exact ⟨trivial, ih⟩

namespace Remap

/-- What remapping ends with, whatever its errors. -/
abbrev Remaps {α : Type} (Q : α → Prop) (x : Except RemapError α) : Prop :=
  Outcome Q (fun _ ↦ True) x

theorem sourceType_remaps (declared : Datum) : Remaps (fun _ ↦ True) (sourceType declared) := by
  cases sourceType declared with
  | error e => exact .error trivial
  | ok s => exact .ok trivial

theorem widened_ne_nil (mode : RemapMode) (s : SimpleType) : widened mode s ≠ [] := by
  cases mode <;> cases s <;> simp [widened]

variable {given} (htext : ∀ t : Text, given (.text t))
include htext

theorem arguments_wellFormed (mode : RemapMode) {args : List Catalogue.Argument}
    (h : ∀ a ∈ args, given a.desc) :
    Remaps (Variable.AllWellFormed given) (arguments mode args) := by
  have hargument : ∀ a ∈ args, Remaps (Variable.WellFormed given) (do
      return .plain (.text a.name) a.desc (← argumentTypes mode a.type)) := by
    intro a ha
    rw [argumentTypes]
    cases sourceType a.type with
    | error e => exact .error trivial
    | ok s =>
      refine .ok ⟨htext a.name, h a ha, ?_, BaseType.allWellFormed_map_simple given _⟩
      simpa using widened_ne_nil mode s
  exact (Outcome.mapM hargument).mono fun vs ↦ Variable.allWellFormed_iff.mpr

variable (given) in
omit htext in
theorem resultTypes_wellFormed (declared : Datum) :
    Remaps (fun types ↦ types ≠ [] ∧ BaseType.AllWellFormed given types)
      (resultTypes declared) := by
  rw [resultTypes.eq_def]
  split
  · exact .ok ⟨by simp, trivial, trivial⟩
  · exact (sourceType_remaps _).bind fun s _ ↦ .ok ⟨by simp, trivial, trivial⟩

theorem function_wellFormed (mode : RemapMode) {f : Catalogue.Function} (h : f.WellFormed given) :
    Remaps (Function.WellFormed given) (function mode f) := by
  rw [function]
  refine (arguments_wellFormed htext mode h.args).bind fun args hargs ↦ ?_
  refine (resultTypes_wellFormed given f.result).bind fun results hresults ↦ .ok ?_
  exact {
    desc := h.desc
    signatures_ne := by simp
    signatures := List.forall_mem_singleton.mpr
      ⟨hargs, ⟨htext [], htext [], hresults.1, hresults.2⟩, trivial⟩
    energy := h.energy
    sleep := h.sleep }

omit htext in
theorem constant_wellFormed {c : Catalogue.Constant} (h : c.WellFormed given) :
    Remaps (Constant.WellFormed given) (constant c) := by
  rw [constant, constantType]
  cases sourceType c.type with
  | error e => exact .error trivial
  | ok s => exact .ok ⟨h.desc, trivial, h.value⟩

theorem event_wellFormed (mode : RemapMode) {e : Catalogue.Event} (h : e.WellFormed given) :
    Remaps (Event.WellFormed given) (event mode e) := by
  rw [event]
  exact (arguments_wellFormed htext mode h.args).bind fun args hargs ↦ .ok ⟨h.desc, hargs⟩

section Catalogue

variable {c : Catalogue} (hc : c.WellFormed given)
include hc

theorem functions_wellFormed (mode : RemapMode) :
    Remaps (fun m ↦ ∀ e ∈ m, e.2.WellFormed given) (functions mode c) := by
  have hfunction : ∀ f ∈ c.functions.values,
      Remaps (Function.WellFormed given) (function mode f) := by
    intro f hf
    obtain ⟨e, he, rfl⟩ := List.mem_map.mp hf
    exact function_wellFormed htext mode (hc.functions e he)
  rw [functions]
  refine (Outcome.mapM hfunction).bind fun fs hfs ↦ .ok fun e he ↦ ?_
  obtain ⟨f, hf, rfl⟩ := List.mem_map.mp (Assoc.mem_of_mem_ofList he)
  exact hfs f hf

omit htext in
theorem constants_wellFormed :
    Remaps (fun m ↦ ∀ e ∈ m, e.2.WellFormed given) (constants c) := by
  refine Outcome.mapM fun e he ↦ ?_
  have he : e ∈ c.constants := (List.mergeSort_perm _ _).mem_iff.mp he
  exact (constant_wellFormed (hc.constants e he)).bind fun k hk ↦ .ok hk

theorem events_wellFormed (mode : RemapMode) :
    Remaps (fun m ↦ ∀ e ∈ m, e.2.WellFormed given) (events mode c) := by
  refine Outcome.mapM fun e he ↦ ?_
  have he : e ∈ c.events := (List.mergeSort_perm _ _).mem_iff.mp (List.mem_filter.mp he).1
  exact (event_wellFormed htext mode (hc.events e he)).bind fun k hk ↦ .ok hk

end Catalogue

omit htext in
theorem globalProps_wellFormed {fs : Assoc Text Function} {cs : Assoc Text Constant}
    {builtins : Builtins} (hfs : ∀ e ∈ fs, e.2.WellFormed given)
    (hcs : ∀ e ∈ cs, e.2.WellFormed given) (hb : builtins.WellFormed given) :
    ∀ e ∈ globalProps fs cs builtins, e.2.WellFormed given := by
  intro e he
  rw [globalProps] at he
  rcases Assoc.mem_of_mem_update he with he | he
  · rcases Assoc.mem_of_mem_update he with he | he
    · rcases Assoc.mem_of_mem_update he with he | he
      · obtain rfl := List.mem_singleton.mp he
        refine Table.allWellFormed_iff.mpr fun e he ↦ ?_
        obtain ⟨f, hf, rfl⟩ := List.mem_map.mp he
        exact hfs f hf
      · obtain ⟨k, hk, rfl⟩ := List.mem_map.mp he
        exact hcs k hk
    · obtain ⟨f, hf, rfl⟩ := List.mem_map.mp he
      exact hb.functions f hf
  · obtain ⟨t, ht, rfl⟩ := List.mem_map.mp he
    exact hb.tables t ht

/-- A well-formed catalogue with well-formed built-in definitions has a well-formed document, if it
has one. -/
theorem toDocument_wellFormed (mode : RemapMode) {builtins : Builtins} {c : Catalogue}
    (hc : c.WellFormed given) (hb : builtins.WellFormed given) :
    Remaps (Document.WellFormed given) (c.toDocument mode builtins) := by
  rw [Catalogue.toDocument]
  refine (functions_wellFormed htext hc mode).bind fun fs hfs ↦ ?_
  refine (constants_wellFormed hc).bind fun cs hcs ↦ ?_
  refine (events_wellFormed htext hc mode).bind fun es hes ↦ .ok ?_
  exact {
    globalTable := Table.allWellFormed_iff.mpr (globalProps_wellFormed hfs hcs hb)
    types := hb.types
    classes := hb.classes
    events := hes }

end Remap

end ScriptDefs
