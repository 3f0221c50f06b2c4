import ScriptDefs.CommandLine.Report
import ScriptDefs.Proofs.Catalogue.Accepted
import ScriptDefs.Proofs.Data.JsonForm
import ScriptDefs.Proofs.Patch.Edit
import ScriptDefs.Proofs.Remap.Modes
import ScriptDefs.Proofs.Types.Accepted

/-!
# Declared types without an image

A catalogue has a typed document unless a declared type has no image in the table of types. The
error is the first such type: functions are taken in the order of the catalogue, each with its
arguments and then its result, after them constants and last events, both in the order of their
names. With patches, only their own errors are added.
-/

namespace ScriptDefs

namespace Remap

/-! ## Demanded types -/

/-- A declared type has no image: it is null, or its name is not in the table. -/
def isUnknown : Datum → Bool
  | .text t => !(Assoc.keys typeTable).contains t
  | _ => true

/-- A declared type needs an image: that of an argument of a function, that of a result unless it is
null, that of a constant, or that of an argument of an event that is not left out. -/
inductive Demanded (c : Catalogue) : Datum → Prop where
  | argument {name : Text} {f : Catalogue.Function} {a : Catalogue.Argument}
    (hf : (name, f) ∈ c.functions) (ha : a ∈ f.args) : Demanded c a.type
  | result {name : Text} {f : Catalogue.Function} (hf : (name, f) ∈ c.functions)
    (h : f.result ≠ .null) : Demanded c f.result
  | constant {name : Text} {k : Catalogue.Constant} (hk : (name, k) ∈ c.constants) :
    Demanded c k.type
  | eventArgument {name : Text} {e : Catalogue.Event} {a : Catalogue.Argument}
    (he : (name, e) ∈ c.events) (hname : ¬ skippedStart <+: name) (ha : a ∈ e.args) :
    Demanded c a.type

/-- The demanded types of arguments from the left. -/
def argumentDemands (args : List Catalogue.Argument) : List Datum := args.map (·.type)

/-- The demanded type of a result, if there is one. -/
def resultDemands : Datum → List Datum
  | .null => []
  | declared => [declared]

/-- The demanded types of a function: those of its arguments, then that of its result. -/
def functionDemands (f : Catalogue.Function) : List Datum :=
  argumentDemands f.args ++ resultDemands f.result

/-- The events of a catalogue that are not left out, sorted. -/
def keptEvents (c : Catalogue) : Assoc Text Catalogue.Event :=
  c.events.sorted.filter fun e ↦ !skippedStart.isPrefixOf e.1

/-- The demanded types of a catalogue in the order in which they are needed. -/
def demands (c : Catalogue) : List Datum :=
  c.functions.values.flatMap functionDemands ++
    (c.constants.sorted.flatMap (fun e ↦ [e.2.type]) ++
      (keptEvents c).flatMap fun e ↦ argumentDemands e.2.args)

/-- The first of the demanded types that has no image. -/
def firstUnknown? (c : Catalogue) : Option Datum := (demands c).find? isUnknown

theorem mem_resultDemands {declared t : Datum} :
    t ∈ resultDemands declared ↔ declared ≠ .null ∧ t = declared := by
  unfold resultDemands
  split
  · simp
  · next hne =>
    rw [List.mem_singleton]
    exact ⟨fun h ↦ ⟨hne, h⟩, And.right⟩

theorem mem_keptEvents {c : Catalogue} {name : Text} {e : Catalogue.Event} :
    (name, e) ∈ keptEvents c ↔ (name, e) ∈ c.events ∧ ¬ skippedStart <+: name := by
  simp [keptEvents, Assoc.sorted, ← List.isPrefixOf_iff_prefix]

/-- The list of demands holds all demanded types and no others. -/
theorem mem_demands {c : Catalogue} {t : Datum} : t ∈ demands c ↔ Demanded c t := by
  simp only [demands, functionDemands, argumentDemands, Assoc.values, List.mem_append,
    List.mem_flatMap, List.mem_map, List.mem_singleton, mem_resultDemands]
  constructor
  · rintro (⟨_, ⟨⟨name, f⟩, hf, rfl⟩, ⟨a, ha, rfl⟩ | ⟨h, rfl⟩⟩ | ⟨⟨name, k⟩, hk, rfl⟩ |
      ⟨⟨name, e⟩, he, a, ha, rfl⟩)
    · exact .argument hf ha
    · exact .result hf h
    · exact .constant ((List.mergeSort_perm _ _).mem_iff.mp hk)
    · obtain ⟨he, hname⟩ := mem_keptEvents.mp he
      exact .eventArgument he hname ha
  · rintro (⟨hf, ha⟩ | ⟨hf, h⟩ | hk | ⟨he, hname, ha⟩)
    · exact .inl ⟨_, ⟨_, hf, rfl⟩, .inl ⟨_, ha, rfl⟩⟩
    · exact .inl ⟨_, ⟨_, hf, rfl⟩, .inr ⟨h, rfl⟩⟩
    · exact .inr (.inl ⟨_, (List.mergeSort_perm _ _).mem_iff.mpr hk, rfl⟩)
    · exact .inr (.inr ⟨_, mem_keptEvents.mpr ⟨he, hname⟩, _, ha, rfl⟩)

theorem firstUnknown?_isSome_iff {c : Catalogue} :
    (firstUnknown? c).isSome ↔ ∃ t, Demanded c t ∧ isUnknown t = true := by
  rw [firstUnknown?, List.find?_isSome]
  simp only [mem_demands]

/-! ## Computations that need images -/

/-- A computation that needs the images of declared types in turn: it has a result if there are all
of them, and else its error is the first type without one. -/
inductive Needs {α : Type} (types : List Datum) : Except RemapError α → Prop where
  | ok (a : α) (h : types.find? isUnknown = none) : Needs types (.ok a)
  | error {t : Datum} (h : types.find? isUnknown = some t) : Needs types (.error (.unknownType t))

namespace Needs

variable {α β : Type} {types types' : List Datum}

theorem result {x : Except RemapError α} (h : Needs types x) :
    (types.find? isUnknown = none ∧ ∃ a, x = .ok a) ∨
      ∃ t, types.find? isUnknown = some t ∧ x = .error (.unknownType t) := by
  cases h with
  | ok a h => exact .inl ⟨h, a, rfl⟩
  | error h => exact .inr ⟨_, h, rfl⟩

theorem bind {x : Except RemapError α} {f : α → Except RemapError β} (hx : Needs types x)
    (hf : ∀ a, Needs types' (f a)) : Needs (types ++ types') (x >>= f) := by
  cases hx with
  | error h => exact .error (by rw [List.find?_append, h, Option.some_or])
  | ok a h =>
    have hfind : (types ++ types').find? isUnknown = types'.find? isUnknown := by
      rw [List.find?_append, h, Option.none_or]
    rw [ok_bind]
    rcases (hf a).result with ⟨hnone, b, hb⟩ | ⟨t, hsome, ht⟩
    · rw [hb]
      exact .ok b (hfind.trans hnone)
    · rw [ht]
      exact .error (hfind.trans hsome)

/-- What is made of a result needs nothing more. -/
theorem map {x : Except RemapError α} (hx : Needs types x) (f : α → β) :
    Needs types (do return f (← x)) := by
  have h : Needs (types ++ []) (x >>= fun a ↦ pure (f a)) := hx.bind fun a ↦ .ok (f a) rfl
  rwa [List.append_nil] at h

/-- A list needs in turn what its items need. -/
theorem mapM {as : List α} {f : α → Except RemapError β} {g : α → List Datum}
    (h : ∀ a ∈ as, Needs (g a) (f a)) : Needs (as.flatMap g) (as.mapM f) := by
  induction as with
  | nil => exact .ok [] rfl
  | cons a as ih =>
    rw [List.mapM_cons, List.flatMap_cons]
    refine (h a List.mem_cons_self).bind fun b ↦ ?_
    exact (ih fun a ha ↦ h a (List.mem_cons_of_mem _ ha)).map (b :: ·)

end Needs

/-! ## Remapping -/

/-- A declared type has an image in the table or is unknown. -/
theorem sourceType_needs {declared : Datum} (h : declared.IsNameOrNull) :
    Needs [declared] (sourceType declared) := by
  match declared, h with
  | .null, _ => exact .error rfl
  | .text t, _ =>
    unfold sourceType
    dsimp only
    have hmem : isUnknown (.text t) = true ↔ typeTable.lookup t = none := by
      rw [Assoc.lookup_eq_none_iff, isUnknown, Bool.not_eq_true', ← Bool.not_eq_true,
        List.contains_iff_mem]
    cases hlookup : typeTable.lookup t with
    | none => exact .error (List.find?_cons_of_pos (hmem.mpr hlookup))
    | some image =>
      refine .ok image (List.find?_eq_none.mpr fun s hs ↦ ?_)
      rw [List.mem_singleton.mp hs, hmem, hlookup]
      exact Option.some_ne_none image

theorem arguments_needs {mode : RemapMode} {args : List Catalogue.Argument}
    (h : ∀ a ∈ args, a.type.IsNameOrNull) :
    Needs (argumentDemands args) (arguments mode args) := by
  have hflat : argumentDemands args = args.flatMap fun a ↦ [a.type] :=
    List.map_eq_flatMap
  rw [hflat]
  refine Needs.mapM fun a ha ↦ ?_
  exact ((sourceType_needs (h a ha)).map _).map _

theorem resultTypes_needs {declared : Datum} (h : declared.IsNameOrNull) :
    Needs (resultDemands declared) (resultTypes declared) := by
  match declared, h with
  | .null, _ => exact .ok _ rfl
  | .text t, h => exact (sourceType_needs h).map _

theorem function_needs {mode : RemapMode} {f : Catalogue.Function}
    (hargs : ∀ a ∈ f.args, a.type.IsNameOrNull) (hresult : f.result.IsNameOrNull) :
    Needs (functionDemands f) (function mode f) :=
  (arguments_needs hargs).bind fun _ ↦ (resultTypes_needs hresult).map _

variable {c : Catalogue} (hc : c.DeclaresNames)
include hc

theorem functions_needs (mode : RemapMode) :
    Needs (c.functions.values.flatMap functionDemands) (functions mode c) := by
  refine Needs.map (Needs.mapM fun f hf ↦ ?_) _
  obtain ⟨e, he, rfl⟩ := List.mem_map.mp hf
  exact function_needs (hc.arguments e he) (hc.results e he)

theorem constants_needs :
    Needs (c.constants.sorted.flatMap fun e ↦ [e.2.type]) (constants c) := by
  refine Needs.mapM fun e he ↦ ?_
  have he : e ∈ c.constants := (List.mergeSort_perm _ _).mem_iff.mp he
  exact ((sourceType_needs (hc.constants e he)).map _ |>.map _).map _

theorem events_needs (mode : RemapMode) :
    Needs ((keptEvents c).flatMap fun e ↦ argumentDemands e.2.args) (events mode c) := by
  refine Needs.mapM fun e he ↦ ?_
  obtain ⟨he, _⟩ := mem_keptEvents.mp he
  exact ((arguments_needs (hc.eventArguments e he)).map _).map _

/-- A catalogue needs the images of its demanded types, in their order. -/
theorem toDocument_needs (mode : RemapMode) (builtins : Builtins) :
    Needs (demands c) (c.toDocument mode builtins) :=
  (functions_needs hc mode).bind fun _ ↦ (constants_needs hc).bind fun _ ↦
    (events_needs hc mode).map _

theorem Demanded.isNameOrNull {t : Datum} (h : Demanded c t) : t.IsNameOrNull := by
  cases h with
  | argument hf ha => exact hc.arguments _ hf _ ha
  | result hf _ => exact hc.results _ hf
  | constant hk => exact hc.constants _ hk
  | eventArgument he _ ha => exact hc.eventArguments _ he _ ha

/-- The error for a demanded type has a report. -/
theorem unknownType_report {t : Datum} (h : Demanded c t) :
    (RemapError.unknownType t).report?.isSome := by
  match t, h.isNameOrNull hc with
  | .null, _ => rfl
  | .text _, _ => rfl

end Remap

/-! ## Failing builds -/

section Override

variable {α : Type} {write : α → Datum} {read : Datum → Except ShapeError α}
  {patches : List Patch} {a : α} {e : OverrideError}

/-- Nothing fails without patches. -/
theorem ne_nil_of_override_error (h : override write read patches a = .error e) :
    patches ≠ [] := by
  rintro rfl
  cases h

/-- An override fails with a patch that does not apply, or with a fault in the patched data. -/
theorem override_error (h : override write read patches a = .error e) :
    (∃ d, ∃ p ∈ patches, ∃ e', p.apply d = .error e' ∧ e = .patch e') ∨
      (patches ≠ [] ∧ ∃ d s, Patch.applyAll patches (write a) = .ok d ∧ read d = .error s ∧
        e = .shape s) := by
  have hpatches := ne_nil_of_override_error h
  rw [override_of_ne hpatches] at h
  cases happlied : Patch.applyAll patches (write a) with
  | error e' =>
    rw [happlied] at h
    cases h
    obtain ⟨d, p, hp, happly⟩ := Patch.applyAll_error happlied
    exact .inl ⟨d, p, hp, e', happly, rfl⟩
  | ok d =>
    rw [happlied, mapError_ok, ok_bind] at h
    cases hread : read d with
    | ok b =>
      rw [hread] at h
      cases h
    | error s =>
      rw [hread] at h
      cases h
      exact .inr ⟨hpatches, d, s, rfl, hread, rfl⟩

end Override

/-- An integer with too many digits keeps the error from being worded. -/
def OverrideError.IsUnworded : OverrideError → Prop
  | .patch e => e = .undescribed (.digitLimit .writing)
  | .shape s => s.message = .error .writing

/-- An override of a document that fails has a report, unless the patches or the document hold an integer
with too many digits, and the error would have to show one. -/
theorem Document.overridden_report {patches : List Patch} {d : Document} {e : OverrideError}
    (hpatches : ∀ p ∈ patches, p.value.IsJsonValue) (h : d.overridden patches = .error e) :
    e.report?.isSome ∨
      e.IsUnworded ∧ ((∃ p ∈ patches, ¬p.toDatum.isWritable = true) ∨
        ¬d.toDatum.isWritable = true) := by
  rcases override_error h with ⟨_, p, hp, e, happly, rfl⟩ | ⟨_, x, s, hx, hs, rfl⟩
  · rcases Patch.failsBy_of_apply (hpatches p hp) happly with ⟨-, fault, t, -, rfl⟩ | ⟨hp', rfl⟩
    · exact .inl rfl
    · exact .inr ⟨rfl, .inl ⟨p, hp, Bool.eq_false_iff.mp hp'⟩⟩
  · by_cases hshows : s.Shows fun d ↦ d.isWritable = true
    · obtain ⟨t, ht⟩ := (s.message_outcome.hasResult_iff.mpr hshows).exists_ok
      refine .inl ?_
      rw [OverrideError.report?, ht]
      rfl
    · refine .inr ⟨s.message_outcome.eq_error hshows, ?_⟩
      -- what the error shows is a part of the patched data
      by_contra! hwritable
      have hvalue : ∀ p ∈ patches, p.value.isWritable = true := fun p hp ↦
        (Datum.inherited_isWritable.object.mp (hwritable.1 p hp) ("value", p.value) (by simp)).2
      have hpatched := Patch.applyAll_inherits Datum.inherited_isWritable (fun _ ↦ rfl) hwritable.2
        hvalue hx
      exact hshows ((Document.read_reads Datum.inherited_isWritable hpatched).of_error hs)

namespace Build

section Failures

variable {options : BuildOptions} {builtins : Builtins} {c : Catalogue} (hc : c.DeclaresNames)
include hc

/-- A type without an image ends the run, whatever the patches are. -/
theorem remapped_of_unknown {t : Datum} (h : Remap.firstUnknown? c = some t) :
    (remapped options builtins c).result = .error (.remap (.unknownType t)) := by
  rw [Remap.firstUnknown?] at h
  rw [remapped_result]
  rcases (Remap.toDocument_needs hc options.mode builtins).result with ⟨hnone, _⟩ | ⟨t', hsome, ht⟩
  · rw [hnone] at h
    cases h
  · rw [hsome] at h
    cases h
    rw [ht, mapError_error, error_bind]

/-- A run fails at the first type without an image, or, if there is none, with the override. -/
theorem remapped_error {e : BuildError} (h : (remapped options builtins c).result = .error e) :
    (∃ t, Remap.firstUnknown? c = some t ∧ e = .remap (.unknownType t)) ∨
      ∃ d e', c.toDocument options.mode builtins = .ok d ∧
        d.overridden options.documentPatches = .error e' ∧ e = .override e' := by
  rw [remapped_result] at h
  rcases (Remap.toDocument_needs hc options.mode builtins).result with ⟨_, d, hd⟩ | ⟨t, hsome, ht⟩
  · rw [hd, mapError_ok, ok_bind] at h
    cases hresult : d.overridden options.documentPatches with
    | ok d' =>
      rw [hresult] at h
      cases h
    | error e' =>
      rw [hresult] at h
      cases h
      exact .inr ⟨d, e', hd, hresult, rfl⟩
  · rw [ht, mapError_error, error_bind] at h
    cases h
    exact .inl ⟨t, hsome, rfl⟩

end Failures

/-- Without patches, a catalogue whose declared types are names or null fails to be remapped exactly
when one of the types that need an image has none; with patches too, the error is the first of
them. All other errors are those of patches that do not apply and of patched data that is no
document. Every error has a report, unless it would have to show an integer with too many digits, which
the patches or the document hold. -/
theorem remapped_fails_at_first_unknown (options : BuildOptions) (builtins : Builtins)
    (c : Catalogue) (hc : c.DeclaresNames) :
    let outcome := (remapped options builtins c).result
    (options.documentPatches = [] →
      ((∃ e, outcome = .error e) ↔ ∃ t, Remap.Demanded c t ∧ Remap.isUnknown t = true)) ∧
    (∀ t, Remap.firstUnknown? c = some t → outcome = .error (.remap (.unknownType t))) ∧
    (∀ e, outcome = .error e →
      (∃ t, Remap.firstUnknown? c = some t ∧ e = .remap (.unknownType t) ∧ e.report?.isSome) ∨
      (∃ fault, ∃ p ∈ options.documentPatches, e = .override (.patch (p.failure fault))) ∨
      (options.documentPatches ≠ [] ∧ ∃ s, e = .override (.shape s))) ∧
    ((∀ p ∈ options.documentPatches, p.value.IsJsonValue) →
      ∀ e, outcome = .error (.override e) →
        e.report?.isSome ∨
          e.IsUnworded ∧ ((∃ p ∈ options.documentPatches, ¬p.toDatum.isWritable = true) ∨
            ∃ d, c.toDocument options.mode builtins = .ok d ∧ ¬d.toDatum.isWritable = true)) := by
  intro outcome
  refine ⟨fun hnil ↦ ?_, fun t ↦ remapped_of_unknown hc, fun e he ↦ ?_, fun hpatches e he ↦ ?_⟩
  · rw [← Remap.firstUnknown?_isSome_iff, Option.isSome_iff_exists]
    constructor
    · rintro ⟨e, he⟩
      rcases remapped_error hc he with ⟨t, ht, _⟩ | ⟨d, e', _, he', _⟩
      · exact ⟨t, ht⟩
      · exact absurd hnil (ne_nil_of_override_error he')
    · rintro ⟨t, ht⟩
      exact ⟨_, remapped_of_unknown hc ht⟩
  · rcases remapped_error hc he with ⟨t, ht, rfl⟩ | ⟨d, e', _, he', rfl⟩
    · have hdemanded := Remap.mem_demands.mp (List.mem_of_find?_eq_some ht)
      exact .inl ⟨t, ht, rfl, Remap.unknownType_report hc hdemanded⟩
    · rcases override_error he' with ⟨_, p, hp, _, happly, rfl⟩ | ⟨hne, _, s, _, _, rfl⟩
      · obtain ⟨fault, rfl⟩ := Patch.apply_error happly
        exact .inr (.inl ⟨fault, p, hp, rfl⟩)
      · exact .inr (.inr ⟨hne, s, rfl⟩)
  · rcases remapped_error hc he with ⟨_, _, hremap⟩ | ⟨d, e', hd, he', heq⟩
    · cases hremap
    · cases heq
      refine (Document.overridden_report hpatches he').imp_right fun ⟨hunworded, hlong⟩ ↦ ?_
      exact ⟨hunworded, hlong.imp_right fun hd' ↦ ⟨d, hd, hd'⟩⟩

/-- Not every failure of a run has a report: a patch with an integer that has too many digits has none when
it does not apply. -/
theorem remapped_fails_unreported :
    ¬∀ (options : BuildOptions) (builtins : Builtins) (c : Catalogue) (e : BuildError),
      c.DeclaresNames → (∀ p ∈ options.documentPatches, p.value.IsJsonValue) →
      (remapped options builtins c).result = .error e → e.report?.isSome := by
  intro h
  let options : BuildOptions := { documentPatches := [Patch.overlong] }
  have hvalue : ∀ p ∈ options.documentPatches, p.value.IsJsonValue :=
    List.forall_mem_singleton.mpr Datum.isJsonValue_overlong
  have hnames : Catalogue.DeclaresNames {} := by
    constructor <;> exact List.forall_mem_nil _
  obtain ⟨d, hd⟩ : ∃ d, Catalogue.toDocument options.mode {} {} = .ok d := by
    rcases (Remap.toDocument_needs hnames options.mode {}).result with ⟨-, hd⟩ | ⟨t, ht, -⟩
    · exact hd
    · cases Remap.mem_demands.mp (List.mem_of_find?_eq_some ht) <;> contradiction
  have hresult : (remapped options {} {}).result =
      .error (.override (.patch (Patch.overlong.failure (.missingKey "functions" 0)))) := by
    rw [remapped_result, hd]
    rfl
  have hreport := h options {} {} _ hnames hvalue hresult
  have hdescribe := (Patch.describe_writes Datum.isJsonValue_overlong).eq_error
    Patch.overlong_not_isWritable
  rw [BuildError.report?, OverrideError.report?, Patch.failure, hdescribe] at hreport
  cases hreport

end Build

namespace Remap

/-- A catalogue with unknown types in all places. -/
def offenders : Catalogue where
  functions := [("llSay", {
      name := "llSay"
      args := [⟨"n", .text "integer", .text []⟩, ⟨"s", .text "wide", .text []⟩]
      result := .text "tall"
      desc := .text []
      energy := .null
      sleep := .null
      mustUse := false
      link := none })]
  constants := [("ONE", {
      name := "ONE"
      type := .null
      valueRaw := none
      value := .null
      desc := .text []
      link := [] })]
  events := [("state_entry", {
      name := "state_entry"
      args := [⟨"x", .text "deep", .text []⟩]
      desc := .text []
      link := [] })]

theorem declaresNames_offenders : offenders.DeclaresNames where
  arguments := by simp [offenders, Datum.IsNameOrNull]
  results := by simp [offenders, Datum.IsNameOrNull]
  constants := by simp [offenders, Datum.IsNameOrNull]
  eventArguments := by simp [offenders, Datum.IsNameOrNull]

end Remap

theorem Build.remapped_offenders : Remap.offenders.DeclaresNames ∧
    (Build.remapped {} {} Remap.offenders).result =
      .error (.remap (.unknownType (.text "wide"))) :=
  ⟨Remap.declaresNames_offenders,
    (Build.remapped_fails_at_first_unknown {} {} _ Remap.declaresNames_offenders).2.1 _ rfl⟩

end ScriptDefs
