import ScriptDefs.Keywords.Load
import ScriptDefs.Proofs.Catalogue.RoundTrip
import ScriptDefs.Proofs.Keywords.Arguments
import ScriptDefs.Proofs.Patch.Restating
import ScriptDefs.Proofs.Remap.Modes

/-!
# Extracted catalogues in plain form

Without patches a catalogue stays as it was extracted; with patches it goes through its plain form.
What is extracted from a marked-up document can be read back. What is extracted from an indented
document has the declared types and costs that the document has, and can be read back when the types
are names or null and the costs numbers or null. A catalogue that can be read back stays as it is
under patches that restate it.
-/

namespace ScriptDefs

namespace Keywords

open Catalogue Markup

/-! ## Definitions in sections -/

/-- What holds of every definition that is read holds of all entries of the section. -/
theorem forall_entries {α β : Type} {P : α → Prop} {R : Text × β → Text × α × List Diagnostic → Prop}
    {definitions : List (Text × β)} {s : Section α} (h : List.Forall₂ R definitions s)
    (hR : ∀ d e, R d e → P e.2.1) : ∀ e ∈ s.entries, P e.2 := by
  have hall : ∀ e ∈ s, P e.2.1 := by
    induction h with
    | nil => exact List.forall_mem_nil _
    | cons h _ ih => exact List.forall_mem_cons.mpr ⟨hR _ _ h, ih⟩
  intro e he
  obtain ⟨x, hx, rfl⟩ := List.mem_map.mp (Assoc.mem_of_mem_ofList he)
  exact hall x hx

/-- Every argument stands for an item. -/
theorem Itemized.isArgument {α : Type} {kind : ItemKind α} {owner : Text} {items : List α}
    {args : List Argument} {ds : List Diagnostic} (h : Itemized kind owner items args ds) :
    ∀ a ∈ args, ∃ item ∈ items, kind.isArgument item a := by
  obtain ⟨outcomes, houtcomes, rfl, -⟩ := h.outcomes
  clear h
  generalize (0 : Nat) = i at houtcomes
  induction houtcomes with
  | nil => exact List.forall_mem_nil _
  | @cons i item o items outcomes ho _ ih =>
    rw [argumentsOf_cons, List.forall_mem_append]
    constructor
    · cases ho with
      | argument h _ => exact List.forall_mem_singleton.mpr ⟨item, List.mem_cons_self, h⟩
      | malformed _ _ | passedOver _ _ => exact List.forall_mem_nil _
    · intro a ha
      obtain ⟨item', hitem, h⟩ := ih a ha
      exact ⟨item', List.mem_cons_of_mem _ hitem, h⟩

/-- The value of a constant is a number, a text or null. -/
theorem CastTo.isConstantValue {raw : Text} {r : Datum × Option DiagnosticRule}
    (h : CastTo raw r) : r.1.IsConstantValue := by
  cases h <;> trivial

/-! ## Marked-up documents -/

theorem treeArguments_readable (owner : Text) (t : Tree) :
    ∀ a ∈ argumentsOf (treeArguments owner t), a.Readable Datum.IsText := by
  intro a ha
  obtain ⟨item, _, _, _, _, _, htype, hdesc⟩ := (treeArguments_itemized owner t).isArgument a ha
  exact ⟨hdesc ▸ trivial, htype ▸ trivial⟩

theorem treeCost_isCost {t : Tree} {key default : Text} {d : Datum}
    (h : treeCost t key default = .ok d) : d.IsCost := by
  obtain ⟨n, _, h⟩ := bind_eq_ok.mp h
  cases n <;> exact Except.ok.inj h ▸ trivial

theorem treeFunction_readable {effects : EffectTable} {name : Text} {t : Tree}
    {f : Catalogue.Function} {ds : List Diagnostic}
    (h : treeFunction effects name t = ⟨ds, .ok f⟩) : f.Readable Datum.IsText := by
  obtain ⟨_, h, -⟩ := Traced.note_bind_eq_ok.mp h
  obtain ⟨energy, henergy, h⟩ := Traced.ofExcept_bind_eq_ok.mp h
  obtain ⟨sleep, hsleep, h⟩ := Traced.ofExcept_bind_eq_ok.mp h
  obtain ⟨-, rfl⟩ := Traced.pure_eq_ok.mp h
  exact {
    desc := trivial
    args := fun a ha ↦ (treeArguments_readable name t a ha).desc
    energy := treeCost_isCost henergy
    sleep := treeCost_isCost hsleep
    argumentTypes := fun a ha ↦ (treeArguments_readable name t a ha).type
    result := trivial }

theorem treeConstant_readable {name : Text} {t : Tree} {c : Catalogue.Constant}
    {ds : List Diagnostic} (h : treeConstant name t = ⟨ds, .ok c⟩) : c.Readable Datum.IsText := by
  obtain ⟨⟨value, problem⟩, hcast, h⟩ := Traced.ofExcept_bind_eq_ok.mp h
  obtain ⟨_, h, -⟩ := Traced.note_bind_eq_ok.mp h
  obtain ⟨-, rfl⟩ := Traced.pure_eq_ok.mp h
  exact {
    desc := trivial
    value := ((castConstant_castTo _ _).of_ok hcast).isConstantValue
    type := trivial }

theorem treeEvent_readable {name : Text} {t : Tree} {e : Catalogue.Event} {ds : List Diagnostic}
    (h : treeEvent name t = ⟨ds, .ok e⟩) : e.Readable Datum.IsText := by
  obtain ⟨_, h, -⟩ := Traced.note_bind_eq_ok.mp h
  obtain ⟨-, rfl⟩ := Traced.pure_eq_ok.mp h
  exact {
    desc := trivial
    args := fun a ha ↦ (treeArguments_readable name t a ha).desc
    argumentTypes := fun a ha ↦ (treeArguments_readable name t a ha).type }

theorem treeType_readable {name : Text} {t : Tree} {n : TypeNote} {ds : List Diagnostic}
    (h : treeType name t = ⟨ds, .ok n⟩) : n.desc.IsText := by
  obtain ⟨-, rfl⟩ := Traced.pure_eq_ok.mp h
  trivial

/-- All that is extracted from a marked-up document is readable. -/
theorem ofTree_readable {effects : EffectTable} {root : Tree} {notes : List Note} {c : Catalogue}
    (h : ofTree effects root = ⟨notes, .ok c⟩) : c.Readable Datum.IsText := by
  obtain ⟨fs, cs, es, ts, hfs, hcs, hes, hts, rfl, _⟩ := ofTree_eq_ok h
  exact {
    functions := forall_entries hfs fun _ _ he ↦ treeFunction_readable he.2
    constants := forall_entries hcs fun _ _ he ↦ treeConstant_readable he.2
    events := forall_entries hes fun _ _ he ↦ treeEvent_readable he.2
    types := forall_entries (P := fun t ↦ t.desc.IsText) hts fun _ _ he ↦ treeType_readable he.2 }

/-! ## Indented documents -/

theorem dataDescription_isText {fields : Fields} {d : Datum}
    (h : dataDescription fields = .ok d) : d.IsText := by
  obtain ⟨t, _, h⟩ := bind_eq_ok.mp h
  exact Except.ok.inj h ▸ trivial

theorem dataArguments_described {owner : Text} {fields : Fields} {args : List Argument}
    {ds : List Diagnostic} (h : dataArguments owner fields = ⟨ds, .ok args⟩) :
    ∀ a ∈ args, a.desc.IsText := by
  intro a ha
  obtain ⟨items, _, hitemized⟩ := dataArguments_itemized h
  obtain ⟨item, _, _, _, _, _, _, _, _, hdesc⟩ := hitemized.isArgument a ha
  exact dataDescription_isText hdesc

theorem dataFunction_described {effects : EffectTable} {name : Text} {fields : Fields}
    {f : Catalogue.Function} {ds : List Diagnostic}
    (h : dataFunction effects name fields = ⟨ds, .ok f⟩) :
    f.desc.IsText ∧ ∀ a ∈ f.args, a.desc.IsText := by
  obtain ⟨_, args, _, hargs, h, -⟩ := Traced.bind_eq_ok.mp h
  obtain ⟨desc, hdesc, h⟩ := Traced.ofExcept_bind_eq_ok.mp h
  obtain ⟨-, rfl⟩ := Traced.pure_eq_ok.mp h
  exact ⟨dataDescription_isText hdesc, dataArguments_described hargs⟩

theorem dataConstant_wellFormed {name : Text} {fields : Fields} {c : Catalogue.Constant}
    {ds : List Diagnostic} (h : dataConstant name fields = ⟨ds, .ok c⟩) :
    c.WellFormed Datum.IsText := by
  obtain ⟨raw, _, h⟩ := Traced.ofExcept_bind_eq_ok.mp h
  obtain ⟨⟨value, problem⟩, hcast, h⟩ := Traced.ofExcept_bind_eq_ok.mp h
  obtain ⟨_, _, h⟩ := Traced.ofExcept_bind_eq_ok.mp h
  obtain ⟨_, h, -⟩ := Traced.note_bind_eq_ok.mp h
  obtain ⟨desc, hdesc, h⟩ := Traced.ofExcept_bind_eq_ok.mp h
  obtain ⟨-, rfl⟩ := Traced.pure_eq_ok.mp h
  have hvalue := ((castConstant_castTo _ _).of_ok (mapError_eq_ok.mp hcast)).isConstantValue
  exact ⟨dataDescription_isText hdesc, hvalue⟩

theorem dataEvent_described {name : Text} {fields : Fields} {e : Catalogue.Event}
    {ds : List Diagnostic} (h : dataEvent name fields = ⟨ds, .ok e⟩) :
    e.desc.IsText ∧ ∀ a ∈ e.args, a.desc.IsText := by
  obtain ⟨_, args, _, hargs, h, -⟩ := Traced.bind_eq_ok.mp h
  obtain ⟨desc, hdesc, h⟩ := Traced.ofExcept_bind_eq_ok.mp h
  obtain ⟨-, rfl⟩ := Traced.pure_eq_ok.mp h
  exact ⟨dataDescription_isText hdesc, dataArguments_described hargs⟩

theorem describedTypes_described : ∀ e ∈ describedTypes, e.2.desc.IsText := by
  rw [describedTypes]
  exact List.forall_mem_map.mpr fun _ _ ↦ trivial

/-- All that is extracted from an indented document is described by texts, and the values of its
constants are numbers, texts or null. -/
theorem ofData_described {effects : EffectTable} {data : Fields} {notes : List Note} {c : Catalogue}
    (h : ofData effects data = ⟨notes, .ok c⟩) :
    c.Described Datum.IsText ∧ ∀ e ∈ c.constants, e.2.value.IsConstantValue := by
  obtain ⟨_, _, _, _, _, _, fs, cs, es, hfs, hcs, hes, rfl, _⟩ := ofData_eq_ok h
  have hconstants := forall_entries hcs (P := fun k ↦ k.WellFormed Datum.IsText)
    fun _ _ he ↦ dataConstant_wellFormed he.2
  refine ⟨?_, fun e he ↦ (hconstants e he).value⟩
  exact {
    functions := forall_entries (P := fun f ↦ f.desc.IsText ∧ ∀ a ∈ f.args, a.desc.IsText) hfs
      fun _ _ he ↦ dataFunction_described he.2
    constants := fun e he ↦ (hconstants e he).desc
    events := forall_entries (P := fun f ↦ f.desc.IsText ∧ ∀ a ∈ f.args, a.desc.IsText) hes
      fun _ _ he ↦ dataEvent_described he.2
    types := describedTypes_described }

/-- What is extracted from an indented document is readable if its declared types are names or null
and its costs numbers or null. -/
theorem ofData_readable_iff {effects : EffectTable} {data : Fields} {notes : List Note}
    {c : Catalogue} (h : ofData effects data = ⟨notes, .ok c⟩) :
    c.Readable Datum.IsText ↔ c.DeclaresNames ∧ c.HasCosts := by
  obtain ⟨hdescribed, hvalues⟩ := ofData_described h
  constructor
  · exact fun hc ↦ ⟨hc.declaresNames, hc.hasCosts⟩
  · rintro ⟨hnames, hcosts⟩
    exact hdescribed.readable hnames hcosts hvalues

/-! ## Patches that restate -/

end Keywords

/-- A readable catalogue stays as it is under patches that restate it. -/
theorem Catalogue.overridden_of_restates {c : Catalogue} (h : c.Readable Datum.IsText)
    {patches : List Patch} (hpatches : ∀ p ∈ patches, p.Restates c.toDatum) :
    c.overridden patches = .ok c := by
  rw [overridden]
  have hwrite : c.toDatum.unrolled (Patch.reach patches) = c.toDatum := h.isPlain.unrolled _
  refine override_of_restates (fun p hp ↦ ?_) ?_
  · rw [hwrite]
    exact hpatches p hp
  · rw [hwrite]
    exact read_toDatum Datum.kept_isText c h

namespace Keywords

/-- A catalogue is loaded by reading it and overriding it. -/
theorem load_eq_ok {effects : Catalogue.EffectTable} {patches : List Patch} {files : Files}
    {p : Path} {l : Loaded} :
    (load effects patches files p).result = .ok l ↔
      ∃ format l₀ c, Format.ofSuffix? p.suffix = some format ∧
        (readCatalogue effects files p format).result = .ok l₀ ∧
        l₀.catalogue.overridden patches = .ok c ∧ l = { l₀ with catalogue := c } := by
  rw [load]
  cases Format.ofSuffix? p.suffix with
  | none => simp [Traced.fail]
  | some format =>
    simp only [Traced.result_bind, loggedOverride, Traced.mapError, bind_eq_ok, mapError_eq_ok,
      Option.some.injEq]
    constructor
    · rintro ⟨l₀, hread, c, hc, hl⟩
      exact ⟨format, l₀, c, rfl, hread, hc, (Except.ok.inj hl).symm⟩
    · rintro ⟨_, l₀, c, rfl, hread, hc, rfl⟩
      exact ⟨l₀, hread, c, hc, rfl⟩

theorem loaded_eq_ok {x : Traced Note LoadError Catalogue} {l : Loaded}
    (h : (loaded x).result = .ok l) : x.result = .ok l.catalogue := by
  rw [loaded, Traced.result_bind] at h
  obtain ⟨c, hc, h⟩ := bind_eq_ok.mp h
  obtain rfl := Except.ok.inj h
  exact hc

/-- What is read from a file is extracted from a tree or from data. -/
theorem readCatalogue_eq_ok {effects : Catalogue.EffectTable} {files : Files} {p : Path}
    {format : Format} {l : Loaded} (h : (readCatalogue effects files p format).result = .ok l) :
    (∃ root notes, ofTree effects root = ⟨notes, .ok l.catalogue⟩) ∨
      format = .indented ∧ ∃ data notes, ofData effects data = ⟨notes, .ok l.catalogue⟩ := by
  cases format with
  | markup =>
    simp only [readCatalogue, Traced.result_bind, bind_eq_ok] at h
    obtain ⟨_, _, _, _, root, _, _, _, h⟩ := h
    have hc := mapError_eq_ok.mp (loaded_eq_ok h)
    exact .inl ⟨root, (ofTree effects root).notes, by rw [← hc]⟩
  | indented =>
    simp only [readCatalogue, Traced.result_bind, bind_eq_ok] at h
    obtain ⟨_, _, _, _, data, _, h⟩ := h
    have hc := mapError_eq_ok.mp (loaded_eq_ok h)
    exact .inr ⟨rfl, data, (ofData effects data).notes, by rw [← hc]⟩

/-- A catalogue that is loaded without patches is readable if it comes from a marked-up document,
or if it can be read back. -/
theorem load_readable {effects : Catalogue.EffectTable} {files : Files} {p : Path} {l : Loaded}
    (h : (load effects [] files p).result = .ok l)
    (hread : Format.ofSuffix? p.suffix = some .markup ∨
      Catalogue.read l.catalogue.toDatum = .ok l.catalogue) :
    l.catalogue.Readable Datum.IsText := by
  obtain ⟨format, l₀, c, hformat, hcatalogue, hnone, rfl⟩ := load_eq_ok.mp h
  obtain rfl := Except.ok.inj hnone
  rcases readCatalogue_eq_ok hcatalogue with ⟨_, _, htree⟩ | ⟨rfl, _, _, hdata⟩
  · exact ofTree_readable htree
  · rcases hread with hmarkup | hread
    · rw [hformat] at hmarkup
      cases hmarkup
    · exact Catalogue.readable_of_read (ofData_described hdata).1 hread

/-- Patches that restate a catalogue in plain form load the same catalogue as no patches. -/
theorem load_of_restates {effects : Catalogue.EffectTable} {files : Files} {p : Path} {l : Loaded}
    (h : (load effects [] files p).result = .ok l) (hc : l.catalogue.Readable Datum.IsText)
    {patches : List Patch} (hpatches : ∀ q ∈ patches, q.Restates l.catalogue.toDatum) :
    (load effects patches files p).result = .ok l := by
  obtain ⟨format, l₀, c, hformat, hread, hnone, rfl⟩ := load_eq_ok.mp h
  obtain rfl := Except.ok.inj hnone
  exact load_eq_ok.mpr
    ⟨format, l₀, _, hformat, hread, Catalogue.overridden_of_restates hc hpatches, rfl⟩

/-- Every catalogue from a marked-up document can be read back from its plain form. A catalogue
from an indented document can be read back if its declared types are names or null and its costs
numbers or null, and is refused otherwise; it is never read as another one. Whenever a loaded
catalogue can be read back, patches that restate what is there load the same catalogue as no
patches, which are not read back. -/
theorem extracted_read_back (effects : Catalogue.EffectTable) :
    (∀ root notes c, ofTree effects root = ⟨notes, .ok c⟩ → Catalogue.read c.toDatum = .ok c) ∧
    (∀ data notes c, ofData effects data = ⟨notes, .ok c⟩ →
      (Catalogue.read c.toDatum = .ok c ↔ c.DeclaresNames ∧ c.HasCosts) ∧
      ∀ c', Catalogue.read c.toDatum = .ok c' → c' = c) ∧
    (∀ files p l patches, (load effects [] files p).result = .ok l →
      (∀ q ∈ patches, q.Restates l.catalogue.toDatum) →
      Format.ofSuffix? p.suffix = some .markup ∨
        Catalogue.read l.catalogue.toDatum = .ok l.catalogue →
      (load effects patches files p).result = .ok l) := by
  refine ⟨fun root notes c h ↦ ?_, fun data notes c h ↦ ⟨?_, fun c' hc' ↦ ?_⟩,
    fun files p l patches h hpatches hread ↦
      load_of_restates h (load_readable h hread) hpatches⟩
  · exact Catalogue.read_toDatum Datum.kept_isText c (ofTree_readable h)
  · rw [← ofData_readable_iff h]
    exact ⟨Catalogue.readable_of_read (ofData_described h).1,
      Catalogue.read_toDatum Datum.kept_isText c⟩
  · have hc := Catalogue.readable_of_read (ofData_described h).1 hc'
    exact Except.ok.inj (hc'.symm.trans (Catalogue.read_toDatum Datum.kept_isText c hc))

namespace Unchecked

/-- A document with one function, whose result type is a number. -/
def data : Fields :=
  let function : Datum := .object [("return", .int 5)]
  [(.text "functions", .object [("llFoo", function)])]

end Unchecked

/-- A result type is taken over without a check: a number passes, and the plain form is refused. -/
theorem ofData_takes_over_number :
    ¬ ∀ effects data notes c, ofData effects data = ⟨notes, .ok c⟩ →
      Catalogue.read c.toDatum = .ok c := by
  intro h
  have hread := h [] Unchecked.data _ _ rfl
  cases hread

end Keywords

end ScriptDefs
