import ScriptDefs.Proofs.Types.WellFormed
import ScriptDefs.Proofs.Types.Writable

/-!
# Printing types and samples

Types, variables and signatures in which all variables have texts as names are printed exactly if no
literal in them is an integer with too many digits. Functions with such signatures have sample calls
exactly if their names can be encoded and no argument is shown with such an integer.
-/

namespace ScriptDefs

/-! ## Texts -/

/-- What is known of whether something can be printed: it can unless an integer has too many digits. -/
abbrev PrintsUnless {α : Type} (Q : α → Prop) (writable : Prop) (x : Except FormatError α) : Prop :=
  SucceedsIff writable (.digitLimit .writing) Q x

theorem Datum.IsText.asText {d : Datum} (h : d.IsText) : HasResult d.asText := by
  obtain ⟨t, rfl⟩ := isText_iff.mp h
  exact .ok trivial

theorem Datum.IsText.inText {d : Datum} (h : d.IsText) : HasResult d.inText := by
  obtain ⟨t, rfl⟩ := isText_iff.mp h
  exact .ok trivial

theorem commaSeparated_succeeds {ds : List Datum} (h : ∀ d ∈ ds, d.IsText) :
    HasResult (Datum.commaSeparated ds) :=
  (HasResult.mapM fun d hd ↦ (h d hd).asText).bind fun _ _ ↦ .ok trivial

/-- A variable is shown as a text if its name is a text. -/
theorem Variable.named_succeeds {name : Datum} (h : name.IsText) (types : Text) (variadic : Bool) :
    Succeeds Datum.IsText (Variable.named name types variadic) := by
  rw [Variable.named]
  split
  · split
    · exact .ok h
    · exact h.inText.bind fun _ _ ↦ .ok trivial
  · exact .ok trivial

theorem bindingTo_succeeds {name : Datum} (h : name.IsText) : HasResult (bindingTo name) := by
  rw [bindingTo]
  split
  · exact h.inText.bind fun _ _ ↦ .ok trivial
  · exact .ok trivial

theorem Literal.display_prints (v : Literal) :
    PrintsUnless (fun _ ↦ True) v.IsWritable v.display := by
  cases v with
  | text t => exact .ok ⟨rfl, trivial⟩
  | int n =>
    have hwritable : (Literal.int n).IsWritable ↔ (Scalar.int n).isWritable = true := by
      rw [Literal.IsWritable, Literal.toDatum, Datum.isWritable]
    exact ((DigitLimit.integerText_outcome n).mapError _).congr hwritable.symm
  | float x => exact .ok ⟨rfl, trivial⟩

/-! ## Encoding -/

namespace Text

@[simp] theorem isEncodable_append (t u : Text) :
    (t ++ u).isEncodable = (t.isEncodable && u.isEncodable) := List.all_append

@[simp] theorem isEncodable_cons_scalar (c : Char) (t : Text) :
    isEncodable (.scalar c :: t) = t.isEncodable := by
  simp [isEncodable, CodePoint.toChar?]

@[simp] theorem isEncodable_ofString (s : String) : (ofString s).isEncodable = true := by
  simp [isEncodable, ofString, CodePoint.toChar?]

@[simp] theorem isEncodable_ofNat (n : Nat) : (ofNat n).isEncodable = true :=
  isEncodable_ofString _

/-- A text without surrogates has bytes. -/
theorem exists_toUtf8? {t : Text} (h : t.isEncodable = true) : ∃ bytes, t.toUtf8? = some bytes := by
  have hchars : ∃ cs, t.mapM CodePoint.toChar? = some cs := by
    induction t with
    | nil => exact ⟨[], rfl⟩
    | cons c t ih =>
      rw [isEncodable, List.all_cons, Bool.and_eq_true] at h
      obtain ⟨ch, hch⟩ := Option.isSome_iff_exists.mp h.1
      obtain ⟨cs, hcs⟩ := ih h.2
      exact ⟨ch :: cs, by rw [List.mapM_cons, hch, hcs]; rfl⟩
  obtain ⟨cs, hcs⟩ := hchars
  exact ⟨_, by rw [toUtf8?, toString?, hcs]; rfl⟩

/-- A text with a surrogate has no bytes. -/
theorem toUtf8?_eq_none {t : Text} (h : isEncodable t = false) : t.toUtf8? = none := by
  have hchars : t.mapM CodePoint.toChar? = none := by
    induction t with
    | nil => simp [isEncodable] at h
    | cons c t ih =>
      rw [List.mapM_cons]
      cases hc : c.toChar? with
      | none => rfl
      | some ch =>
        have ht : isEncodable t = false := by simpa [isEncodable, hc] using h
        rw [ih ht]
        rfl
  rw [toUtf8?, toString?, hchars]
  rfl

end Text

/-! ## Types -/

-- along the printers, which go through types, variables and signatures in the same way
mutual

theorem BaseType.format_prints : ∀ t : BaseType, t.WellFormed Datum.IsText →
    PrintsUnless (fun _ ↦ True) t.IsWritable t.format
  | .simple _, _ | .custom _, _ => .ok ⟨trivial, trivial⟩
  | .literal v, _ => v.display_prints
  | .function s, h => Signature.format_prints s arrow false h
  | .table elements, h => (BaseType.formatAll_prints elements h).returns fun _ _ ↦ trivial

theorem BaseType.formatAll_prints : ∀ types : List BaseType,
    BaseType.AllWellFormed Datum.IsText types →
    PrintsUnless (fun _ ↦ True) (BaseType.AllWritable types) (BaseType.formatAll types)
  | [], _ => .ok ⟨trivial, trivial⟩
  | t :: rest, h =>
    (BaseType.format_prints t h.1).bind fun _ _ ↦
      (BaseType.formatAll_prints rest h.2).returns fun _ _ ↦ trivial

theorem Variable.format_prints : ∀ (v : Variable) (cleanup : Bool), v.WellFormed Datum.IsText →
    PrintsUnless Datum.IsText v.IsWritable (v.format cleanup)
  | .mk _ _ types variadic _, _, ⟨hname, _, _, htypes⟩ =>
    (BaseType.formatAll_prints types htypes).bind_succeeds fun _ _ ↦
      Variable.named_succeeds hname _ variadic

theorem Variable.formatAll_prints : ∀ (vs : List Variable) (cleanup : Bool),
    Variable.AllWellFormed Datum.IsText vs →
    PrintsUnless (fun ds ↦ ∀ d ∈ ds, d.IsText) (Variable.AllWritable vs)
      (Variable.formatAll cleanup vs)
  | [], _, _ => .ok ⟨trivial, List.forall_mem_nil _⟩
  | v :: rest, cleanup, h =>
    (Variable.format_prints v cleanup h.1).bind fun _ hd ↦
      (Variable.formatAll_prints rest cleanup h.2).returns fun _ hds ↦
        List.forall_mem_cons.mpr ⟨hd, hds⟩

theorem Signature.format_prints : ∀ (s : Signature) (separator : Text) (cleanup : Bool),
    s.WellFormed Datum.IsText →
    PrintsUnless (fun _ ↦ True) s.IsWritable (s.format separator cleanup)
  | .mk args results, _, cleanup, h =>
    (Variable.formatAll_prints args cleanup h.1).bind fun _ hargs ↦
      SucceedsIff.after_succeeds (commaSeparated_succeeds hargs) fun _ _ ↦
        (Variable.formatAll_prints results false h.2).bind_succeeds fun _ hresults ↦
          (commaSeparated_succeeds hresults).bind fun _ _ ↦ .ok trivial

end

theorem Variable.formatList_prints {vs : List Variable} (cleanup : Bool)
    (h : Variable.AllWellFormed Datum.IsText vs) :
    PrintsUnless (fun _ ↦ True) (Variable.AllWritable vs) (Variable.formatList cleanup vs) :=
  (Variable.formatAll_prints vs cleanup h).bind_succeeds fun _ hds ↦ commaSeparated_succeeds hds

theorem BaseType.formatUnion_prints {types : List BaseType}
    (h : BaseType.AllWellFormed Datum.IsText types) :
    PrintsUnless (fun _ ↦ True) (BaseType.AllWritable types) (BaseType.formatUnion types) :=
  (BaseType.formatAll_prints types h).returns fun _ _ ↦ trivial

/-- Unnamed arguments can be named. -/
theorem Signature.wellFormed_withNames {s : Signature} (h : s.WellFormed Datum.IsText) :
    s.withNames.WellFormed Datum.IsText := by
  obtain ⟨args, results⟩ := s
  refine ⟨Variable.allWellFormed_iff.mpr fun v hv ↦ ?_, h.2⟩
  obtain ⟨a, ha, rfl⟩ := List.mem_map.mp hv
  have ha := Variable.allWellFormed_iff.mp h.1 a ha
  split
  · exact ha
  · obtain ⟨name, desc, types, variadic, optional⟩ := a
    exact ⟨trivial, ha.2⟩

theorem Signature.stub_prints {s : Signature} (h : s.WellFormed Datum.IsText) {name : Datum}
    (hname : name.IsText) : PrintsUnless (fun _ ↦ True) s.IsWritable (s.stub name) := by
  have hnamed := Signature.wellFormed_withNames h
  rw [← Signature.isWritable_withNames]
  obtain ⟨args, results⟩ := s
  rw [Signature.stub]
  refine SucceedsIff.after_succeeds (bindingTo_succeeds hname) fun _ _ ↦ ?_
  exact (Variable.formatList_prints true hnamed.1).bind fun _ _ ↦
    (Variable.formatList_prints false hnamed.2).returns fun _ _ ↦ trivial

/-! ## Samples -/

namespace Sample

variable {types : Assoc Text Alias} (htypes : ∀ e ∈ types, e.2.WellFormed Datum.IsText)
include htypes

/-- What stands for an argument with a text as its name is a text. -/
theorem partOf_prints (verbose : Bool) {name : Datum} (hname : name.IsText) {type : BaseType}
    (htype : type.WellFormed Datum.IsText) (g : MersenneTwister) :
    PrintsUnless (fun r ↦ r.1.value.IsText) (IsShown types type)
      (partOf types verbose name type g) := by
  rw [partOf.eq_def]
  split
  · exact .ok ⟨trivial, trivial⟩
  · next v => exact v.display_prints.returns fun _ _ ↦ trivial
  · exact (Signature.stub_prints htype hname).returns fun _ _ ↦ hname
  · exact .ok ⟨trivial, trivial⟩
  · next custom =>
    -- a reference shows the first type of the one that it stands for
    have hshown {first : BaseType} {rest : List BaseType}
        (h : (types.lookup custom).map Alias.types = some (first :: rest)) :
        first.IsShown ↔ IsShown types (.custom custom) := by
      obtain ⟨a, ha, hfirst⟩ := Option.map_eq_some_iff.mp h
      simp [IsShown, ha, hfirst]
    split
    · next s _ hcustom => exact .ok ⟨(hshown hcustom).mp trivial, trivial⟩
    · next v _ hcustom =>
      exact (v.display_prints.returns fun _ _ ↦ trivial).congr (hshown hcustom)
    · next s _ hcustom =>
      obtain ⟨a, ha, hs⟩ := Option.map_eq_some_iff.mp hcustom
      obtain ⟨before, after, rfl, _⟩ := List.lookup_eq_some_iff.mp ha
      have halias := (htypes (custom, a) (by simp)).types
      rw [hs] at halias
      refine SucceedsIff.congr ?_ (hshown hcustom)
      exact (Signature.stub_prints halias.1 hname).returns fun _ _ ↦ hname
    · next _ hliteral hfunction =>
      refine .ok ⟨fun a ha t ht ↦ ?_, trivial⟩
      have hfirst : (types.lookup custom).map Alias.types = some (t :: a.types.tail) := by
        rw [ha, Option.map_some, List.cons_head?_tail ht]
      cases t with
      | literal v => exact (hliteral _ _ hfirst).elim
      | function s => exact (hfunction _ _ hfirst).elim
      | simple _ | custom _ | table _ => trivial

omit htypes in
theorem mem_of_pick {ts : List BaseType} {offset : Nat} {type : BaseType}
    (h : pick ts offset = some type) : type ∈ ts := by
  rw [pick, Option.or_eq_some_iff] at h
  rcases h with h | ⟨_, h⟩
  · exact List.mem_of_getElem? h
  · exact List.mem_of_head? h

theorem parts_prints (verbose : Bool) (offset : Nat) {args : List Variable}
    (hargs : Variable.AllWellFormed Datum.IsText args) (g : MersenneTwister) :
    PrintsUnless (fun parts ↦ ∀ p ∈ parts, p.value.IsText)
      (∀ a ∈ args, ∀ t, pick a.types offset = some t → IsShown types t)
      (parts types verbose offset args g) := by
  induction args generalizing g with
  | nil => exact .ok ⟨List.forall_mem_nil _, List.forall_mem_nil _⟩
  | cons a rest ih =>
    obtain ⟨ha, hrest⟩ := hargs
    rw [parts]
    split
    · next hnone =>
      refine (ih hrest g).congr ?_
      simp [hnone]
    · next type htype =>
      have hfirst : (∀ t, pick a.types offset = some t → IsShown types t) ↔ IsShown types type := by
        simp [htype]
      obtain ⟨name, desc, ts, variadic, optional⟩ := a
      have htype := BaseType.allWellFormed_iff.mp ha.2.2.2 type (mem_of_pick htype)
      rw [List.forall_mem_cons, hfirst]
      refine (partOf_prints htypes verbose ha.1 htype g).bind fun r hr ↦ ?_
      exact (ih hrest r.2).returns fun ps hps ↦ List.forall_mem_cons.mpr ⟨hr, hps⟩

end Sample

namespace Function

variable {types : Assoc Text Alias} (htypes : ∀ e ∈ types, e.2.WellFormed Datum.IsText)
include htypes

/-- A signature has a sample if the name of the function can be encoded and no integer is too long. -/
theorem sample_hasResult {f : Function} (hf : f.WellFormed Datum.IsText) {tables : List Text}
    (hname : (f.qualifiedName tables).isEncodable = true) {index : Nat} {s : Signature}
    (hs : f.signatures[index]? = some s) (offset : Nat) (verbose? : Option Bool) :
    HasResult (f.sample types tables index offset verbose?) ↔
      ∀ a ∈ s.args, ∀ t, Sample.pick a.types offset = some t → Sample.IsShown types t := by
  obtain ⟨bytes, hbytes⟩ := Text.exists_toUtf8? (t := f.seedText tables index offset)
    (by simp [seedText, hname])
  have hargs := hf.signatures s (List.mem_of_getElem? hs)
  rw [sample, hs]
  simp only [hbytes]
  rw [HasResult.mapError_iff]
  obtain ⟨args, results⟩ := s
  refine SucceedsIff.hasResult_iff (e := .digitLimit .writing) (Q := fun _ ↦ True) ?_
  refine (Sample.parts_prints htypes _ offset hargs.1 _).bind_succeeds fun ps hps ↦ ?_
  have hvalues : ∀ d ∈ ps.map (·.value), d.IsText := List.forall_mem_map.mpr hps
  have hshown : ∀ d ∈ if f.takesSelf then (ps.map (·.value)).drop 1 else ps.map (·.value),
      HasResult d.asText := by
    intro d hd
    split at hd
    · exact (hvalues d (List.mem_of_mem_drop hd)).asText
    · exact (hvalues d hd).asText
  exact (HasResult.mapM hshown).bind fun _ _ ↦ .ok trivial

omit htypes in
theorem index_of_mem_candidates {f : Function} (hf : f.WellFormed Datum.IsText)
    {candidate : Nat × Nat} (h : candidate ∈ f.sampleCandidates) :
    ∃ s, f.signatures[candidate.1]? = some s := by
  have hlt : candidate.1 < f.signatures.length := by
    rw [sampleCandidates] at h
    rcases List.mem_cons.mp h with rfl | h
    · exact List.length_pos_of_ne_nil hf.signatures_ne
    · obtain ⟨i, hi, h⟩ := List.mem_flatMap.mp h
      obtain ⟨o, _, rfl⟩ := List.mem_map.mp h
      exact List.mem_range.mp (List.mem_of_mem_drop hi)
  exact ⟨_, List.getElem?_eq_getElem hlt⟩

/-- A function whose name can be encoded has a preferred sample if its candidates show no integer that
is too long. -/
theorem preferredSample_hasResult {f : Function} (hf : f.WellFormed Datum.IsText)
    {tables : List Text} (hname : (f.qualifiedName tables).isEncodable = true) :
    HasResult (f.preferredSample types tables) ↔ f.ShowsWritable types := by
  have hranked : ∀ candidate ∈ f.sampleCandidates,
      HasResult (f.rankedSample types tables candidate) ↔
        ∀ s, f.signatures[candidate.1]? = some s → ∀ a ∈ s.args, ∀ t,
          Sample.pick a.types candidate.2 = some t → Sample.IsShown types t := by
    intro candidate hcandidate
    obtain ⟨s, hs⟩ := index_of_mem_candidates hf hcandidate
    rw [hs]
    simp only [Option.some.injEq, forall_eq']
    rw [rankedSample]
    exact (HasResult.returns_iff _).trans (sample_hasResult htypes hf hname hs _ none)
  have hall : f.ShowsWritable types ↔
      ∀ candidate ∈ f.sampleCandidates, HasResult (f.rankedSample types tables candidate) :=
    forall₂_congr fun candidate h ↦ (hranked candidate h).symm
  have hcandidates : f.sampleCandidates = (0, 0) :: f.sampleCandidates.drop 1 := by
    rw [sampleCandidates]
    rfl
  rw [hall, hcandidates, List.forall_mem_cons, ← HasResult.mapM_iff, preferredSample]
  exact HasResult.bind_iff fun _ _ ↦ HasResult.returns_iff _

omit htypes in
/-- A function with short integers in its signatures shows short ones in its samples. -/
theorem showsWritable_of_signatures {f : Function} (htypes : ∀ e ∈ types, BaseType.AllWritable e.2.types)
    (hf : ∀ s ∈ f.signatures, s.IsWritable) : f.ShowsWritable types := by
  intro candidate _ s hs a ha t ht
  obtain ⟨args, results⟩ := s
  have hwritable := Variable.allWritable_iff.mp (hf _ (List.mem_of_getElem? hs)).1 a ha
  obtain ⟨name, desc, ts, variadic, optional⟩ := a
  have ht := BaseType.allWritable_iff.mp hwritable t (Sample.mem_of_pick ht)
  cases t with
  | custom custom =>
    intro referred hreferred first hfirst
    obtain ⟨before, after, rfl, _⟩ := List.lookup_eq_some_iff.mp hreferred
    have hwritable := BaseType.allWritable_iff.mp (htypes (custom, referred) (by simp)) first
      (List.mem_of_head? hfirst)
    cases first with
    | literal _ | function _ => exact hwritable
    | simple _ | custom _ | table _ => trivial
  | literal _ | function _ => exact ht
  | simple _ | table _ => trivial

end Function

end ScriptDefs
