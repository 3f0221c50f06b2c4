import ScriptDefs.Proofs.Data.Merged
import ScriptDefs.Proofs.Keywords.Formats
import ScriptDefs.Proofs.Number.LeadingInteger

/-!
# Values of constants

A constant without a value is reported, and only such a one: a numeric type without a number in front of
the text, and a type without a rule, give null and one diagnostic on the constant. Between the
diagnostics on the arguments of functions and those on the arguments of events stand the ones on the
constants, in the order of the constants. What stops the extraction from a marked-up document is a number
with more digits than are converted, of a cost or of an integer constant, and nothing else.
-/

namespace ScriptDefs

namespace Text

/-- The text does not begin with more decimal digits than are converted. -/
def IsConvertible (t : Text) : Prop := t.decimalRun.length ≤ DigitLimit.limit

/-- The integer at the start of a text is read unless there are too many digits. -/
theorem hasResult_leadingInt? (t : Text) : HasResult t.leadingInt? ↔ t.IsConvertible := by
  unfold IsConvertible
  cases hmark : t.unsigned.afterHexMark? with
  | some rest =>
    have hrun : t.decimalRun = [] := by simp [decimalRun, hmark]
    rw [leadingInt?_of_mark hmark, hrun]
    refine iff_of_true ?_ (Nat.zero_le _)
    split
    · exact .ok trivial
    · exact .ok trivial
  | none =>
    rw [leadingInt?_of_no_mark hmark]
    by_cases hlong : DigitLimit.limit < t.decimalRun.length
    · rw [if_pos hlong]
      refine iff_of_false (fun h ↦ ?_) (by omega)
      obtain ⟨_, hread⟩ := h.exists_ok
      cases hread
    · rw [if_neg hlong]
      exact iff_of_true (.ok trivial) (by omega)

theorem runValue_eq_none_iff {base : Nat} {negative : Bool} {digits : List Nat} :
    runValue base negative digits = none ↔ digits = [] := by
  unfold runValue
  split <;> simp [*]

/-- There is no integer at the start of a text without a digit after white space and a sign or none. -/
theorem leadingInt?_eq_none {t : Text} :
    t.leadingInt? = .ok none ↔ digitRun CodePoint.digit? t.unsigned = [] := by
  cases hmark : t.unsigned.afterHexMark? with
  | some rest =>
    rw [leadingInt?_of_mark hmark, digitRun_of_mark hmark, integerBy, hmark]
    split
    · simp
    · next hrun => simp [runValue_eq_none_iff, hrun]
  | none =>
    have hdigits : t.decimalRun = digitRun CodePoint.digit? t.unsigned := by simp [decimalRun, hmark]
    rw [leadingInt?_of_no_mark hmark, integerBy, hmark, ← hdigits]
    split
    · next hlong =>
      have hne : t.decimalRun ≠ [] := List.ne_nil_of_length_pos (by omega)
      simp [hne]
    · simp [runValue_eq_none_iff, hdigits]

end Text

namespace Catalogue

/-! ## What is reported -/

/-- A constant has a numeric type and no numeric value: no digit comes first in the text of an integer,
and no numeral of a finite number in the text of a floating-point number. -/
def Constant.LacksNumber (c : Constant) : Prop :=
  ∃ raw ∈ c.valueRaw,
    (c.type = .text "integer" ∧ Text.digitRun CodePoint.digit? raw.unsigned = []) ∨
    (c.type = .text "float" ∧ ∀ x rest,
      Text.leadingNumeral? CodePoint.digit? raw.trimStart = some (x, rest) →
        x.toBinary64.isFinite = false)

/-- The type of a constant is neither numeric nor one whose constants keep their text. -/
def Constant.LacksRule (c : Constant) : Prop :=
  ∀ name ∈ Text.ofString "integer" :: Text.ofString "float" :: textTypes, c.type ≠ .text name

/-- The diagnostics on the value of a constant: those with a code of a failed cast or of an unknown type
and with the constant as their subject. -/
def castDiagnosticsOn (name : Text) (ds : List Diagnostic) : List Diagnostic :=
  ds.filter fun d ↦
    d.subject = some name ∧ (d.code = castFailed.code ∨ d.code = unknownType.code)

/-- A constant has no value exactly if there is one diagnostic on its value, which says why. -/
structure Constant.Reported (c : Constant) (ds : List Diagnostic) : Prop where
  null_iff : c.value = .null ↔ (castDiagnosticsOn c.name ds).length = 1
  castFailed : c.LacksNumber → (castDiagnosticsOn c.name ds).map (·.code) = [castFailed.code]
  unknownType : c.LacksRule → (castDiagnosticsOn c.name ds).map (·.code) = [unknownType.code]
  none : ¬ c.LacksNumber → ¬ c.LacksRule → castDiagnosticsOn c.name ds = []

/-! ## Casting -/

/-- What is found about the value of a constant. -/
inductive Constant.Judged (c : Constant) : Option DiagnosticRule → Prop where
  | failed (h : c.LacksNumber) (hvalue : c.value = .null) : Judged c (some castFailed)
  | unknownType (h : c.LacksRule) (hvalue : c.value = .null) : Judged c (some unknownType)
  | cast (hnumber : ¬ c.LacksNumber) (hrule : ¬ c.LacksRule) (hvalue : c.value ≠ .null) :
    Judged c none

theorem Constant.LacksNumber.not_lacksRule {c : Constant} (h : c.LacksNumber) : ¬ c.LacksRule := by
  intro hrule
  rcases h with ⟨_, _, ⟨htype, _⟩ | ⟨htype, _⟩⟩
  · exact hrule _ (by simp) htype
  · exact hrule _ (by simp) htype

theorem leadingFloat?_eq_none {raw : Text} :
    raw.leadingFloat? = none ↔ ∀ x rest,
      Text.leadingNumeral? CodePoint.digit? raw.trimStart = some (x, rest) →
        x.toBinary64.isFinite = false := by
  unfold Text.leadingFloat?
  cases Text.leadingNumeral? CodePoint.digit? raw.trimStart with
  | none => simp
  | some r =>
    obtain ⟨x, rest⟩ := r
    simp

section Cast

variable {c : Constant} {raw : Text} {problem : Option DiagnosticRule}

theorem lacksNumber_iff (hraw : c.valueRaw = some raw) :
    c.LacksNumber ↔
      (c.type = .text "integer" ∧ raw.leadingInt? = .ok none) ∨
      (c.type = .text "float" ∧ raw.leadingFloat? = none) := by
  simp [Constant.LacksNumber, hraw, Text.leadingInt?_eq_none, leadingFloat?_eq_none]

theorem lacksRule_of_toText? (htype : c.type.toText? = none) : c.LacksRule := by
  intro name _ h
  rw [h] at htype
  cases htype

/-- A cast gives a value or says what is missing. -/
theorem judged_of_castConstant (hraw : c.valueRaw = some raw)
    (h : castConstant raw c.type = .ok (c.value, problem)) : c.Judged problem := by
  have hnumber := lacksNumber_iff hraw
  rw [castConstant] at h
  -- along the cast: no text as the type, an integer, a float, a kept text, and any other type
  split at h
  · next htype =>
    obtain ⟨hvalue, rfl⟩ := Prod.mk.inj (Except.ok.inj h)
    exact .unknownType (lacksRule_of_toText? htype) hvalue.symm
  next name htype =>
  replace htype : c.type = .text name := Datum.eq_text_of_toText? htype
  have hrule : c.LacksRule ↔ name ≠ Text.ofString "integer" ∧ name ≠ Text.ofString "float" ∧
      name ∉ textTypes := by
    simp [Constant.LacksRule, htype, textTypes]
  split at h
  · next hname =>
    subst hname
    obtain ⟨n, hn, h⟩ := bind_eq_ok.mp h
    cases n with
    | none =>
      obtain ⟨hvalue, rfl⟩ := Prod.mk.inj (Except.ok.inj h)
      exact .failed (hnumber.mpr (.inl ⟨htype, hn⟩)) hvalue.symm
    | some n =>
      obtain ⟨hvalue, rfl⟩ := Prod.mk.inj (Except.ok.inj h)
      refine .cast ?_ (by simp [hrule]) (by simp [← hvalue])
      simp [hnumber, htype, hn]
  next hinteger =>
  split at h
  · next hname =>
    subst hname
    cases hx : raw.leadingFloat? with
    | none =>
      rw [hx] at h
      obtain ⟨hvalue, rfl⟩ := Prod.mk.inj (Except.ok.inj h)
      exact .failed (hnumber.mpr (.inr ⟨htype, hx⟩)) hvalue.symm
    | some x =>
      rw [hx] at h
      obtain ⟨hvalue, rfl⟩ := Prod.mk.inj (Except.ok.inj h)
      refine .cast ?_ (by simp [hrule]) (by simp [← hvalue])
      simp [hnumber, htype, hx]
  next hfloat =>
  have hneither : ¬ c.LacksNumber := by simp [hnumber, htype, hinteger, hfloat]
  split at h
  · next hname =>
    obtain ⟨hvalue, rfl⟩ := Prod.mk.inj (Except.ok.inj h)
    refine .cast hneither ?_ (by simp [← hvalue])
    simpa [hrule, hinteger, hfloat] using hname
  · next hname =>
    obtain ⟨hvalue, rfl⟩ := Prod.mk.inj (Except.ok.inj h)
    refine .unknownType (hrule.mpr ⟨hinteger, hfloat, ?_⟩) hvalue.symm
    simpa using hname

end Cast

end Catalogue

namespace Keywords

open Catalogue Markup

/-! ## Constants of a section -/

/-- A constant as it is read under a name, with the diagnostics on it. -/
structure ReadConstant (name : Text) (c : Catalogue.Constant) (ds : List Diagnostic) : Prop where
  name_eq : c.name = name
  judged : ∃ problem detail, c.Judged problem ∧
    ds = (problem.map fun rule ↦ rule.emit name detail).toList

theorem treeConstant_read {name : Text} {t : Tree} {c : Catalogue.Constant} {ds : List Diagnostic}
    (h : treeConstant name t = ⟨ds, .ok c⟩) : ReadConstant name c ds := by
  obtain ⟨⟨value, problem⟩, hcast, h⟩ := Traced.ofExcept_bind_eq_ok.mp h
  obtain ⟨_, hend, rfl⟩ := Traced.note_bind_eq_ok.mp h
  obtain ⟨rfl, rfl⟩ := Traced.pure_eq_ok.mp hend
  rw [List.append_nil]
  exact ⟨rfl, problem, _, judged_of_castConstant rfl hcast, rfl⟩

theorem dataConstant_read {name : Text} {fields : Fields} {c : Catalogue.Constant}
    {ds : List Diagnostic} (h : dataConstant name fields = ⟨ds, .ok c⟩) :
    ReadConstant name c ds := by
  obtain ⟨raw, _, h⟩ := Traced.ofExcept_bind_eq_ok.mp h
  obtain ⟨⟨value, problem⟩, hcast, h⟩ := Traced.ofExcept_bind_eq_ok.mp h
  obtain ⟨ds, hds, h⟩ := Traced.ofExcept_bind_eq_ok.mp h
  obtain ⟨_, hrest, rfl⟩ := Traced.note_bind_eq_ok.mp h
  obtain ⟨desc, _, hend⟩ := Traced.ofExcept_bind_eq_ok.mp hrest
  obtain ⟨rfl, rfl⟩ := Traced.pure_eq_ok.mp hend
  rw [List.append_nil]
  replace hcast := mapError_eq_ok.mp hcast
  cases problem with
  | none =>
    cases hds
    exact ⟨rfl, none, none, judged_of_castConstant rfl hcast, rfl⟩
  | some rule =>
    obtain ⟨shown, _, hds⟩ := bind_eq_ok.mp hds
    cases hds
    exact ⟨rfl, some rule, _, judged_of_castConstant rfl hcast, rfl⟩

namespace ReadConstant

variable {name : Text} {c : Catalogue.Constant} {ds : List Diagnostic} (h : ReadConstant name c ds)
include h

/-- All diagnostics on a constant are on its value. -/
theorem castDiagnosticsOn_self : castDiagnosticsOn name ds = ds := by
  obtain ⟨-, problem, detail, hjudged, rfl⟩ := h
  cases hjudged <;> simp [castDiagnosticsOn, DiagnosticRule.emit]

theorem castDiagnosticsOn_of_ne {other : Text} (hne : name ≠ other) :
    castDiagnosticsOn other ds = [] := by
  obtain ⟨-, problem, detail, hjudged, rfl⟩ := h
  cases hjudged <;> simp [castDiagnosticsOn, DiagnosticRule.emit, hne]

/-- A constant is reported where the diagnostics on its value are those with which it was read. -/
theorem reported {all : List Diagnostic} (hall : castDiagnosticsOn name all = ds) :
    c.Reported all := by
  obtain ⟨hname, problem, detail, hjudged, rfl⟩ := h
  subst hname
  cases hjudged with
  | failed hnumber hvalue =>
    exact {
      null_iff := by simp [hall, hvalue]
      castFailed := fun _ ↦ by simp [hall, DiagnosticRule.emit]
      unknownType := fun hrule ↦ absurd hrule hnumber.not_lacksRule
      none := fun hno _ ↦ absurd hnumber hno }
  | unknownType hrule hvalue =>
    exact {
      null_iff := by simp [hall, hvalue]
      castFailed := fun hnumber ↦ absurd hrule hnumber.not_lacksRule
      unknownType := fun _ ↦ by simp [hall, DiagnosticRule.emit]
      none := fun _ hno ↦ absurd hrule hno }
  | cast hnumber hrule hvalue =>
    exact {
      null_iff := by simp [hall, hvalue]
      castFailed := fun h ↦ absurd h hnumber
      unknownType := fun h ↦ absurd h hrule
      none := fun _ _ ↦ by simp [hall] }

end ReadConstant

section Section

variable {s : Section Catalogue.Constant}

theorem castDiagnosticsOn_section (name : Text) :
    castDiagnosticsOn name (Section.diagnostics s) = s.flatMap fun e ↦ castDiagnosticsOn name e.2.2 :=
  List.filter_flatMap

variable (hread : ∀ e ∈ s, ReadConstant e.1 e.2.1 e.2.2)
include hread

/-- Only the constant of a name has diagnostics with it. -/
theorem castDiagnosticsOn_of_notMem {name : Text} (h : name ∉ s.map (·.1)) :
    castDiagnosticsOn name (Section.diagnostics s) = [] := by
  rw [castDiagnosticsOn_section, List.flatMap_eq_nil_iff]
  intro e he
  apply (hread e he).castDiagnosticsOn_of_ne
  rintro rfl
  exact h (List.mem_map_of_mem he)

/-- The diagnostics on one constant of a section are those with which it was read, for the names
differ. -/
theorem castDiagnosticsOn_of_mem (hnames : (s.map (·.1)).Nodup) :
    ∀ e ∈ s, castDiagnosticsOn e.1 (Section.diagnostics s) = e.2.2 := by
  induction s with
  | nil => exact List.forall_mem_nil _
  | cons x s ih =>
    obtain ⟨hx, hs⟩ := List.forall_mem_cons.mp hread
    obtain ⟨hnew, hrest⟩ := List.nodup_cons.mp hnames
    have hsplit (name : Text) : castDiagnosticsOn name (Section.diagnostics (x :: s)) =
        castDiagnosticsOn name x.2.2 ++ castDiagnosticsOn name (Section.diagnostics s) := by
      rw [castDiagnosticsOn_section, castDiagnosticsOn_section, List.flatMap_cons]
    intro e he
    rw [hsplit]
    rcases List.mem_cons.mp he with rfl | he
    · rw [hx.castDiagnosticsOn_self, castDiagnosticsOn_of_notMem hs hnew, List.append_nil]
    · have hne : x.1 ≠ e.1 := fun heq ↦ hnew (List.mem_map.mpr ⟨e, he, heq.symm⟩)
      rw [hx.castDiagnosticsOn_of_ne hne, List.nil_append]
      exact ih hs hrest e he

end Section

/-! ## Names of a section -/

section Names

variable {α β : Type} {R : Text × β → Text × α × List Diagnostic → Prop}
  {definitions : List (Text × β)} {s : Section α}

/-- A section has the names of its definitions. -/
theorem names_of_forall₂ (h : List.Forall₂ R definitions s) (hR : ∀ d e, R d e → e.1 = d.1) :
    s.map (·.1) = definitions.map (·.1) := by
  induction h with
  | nil => rfl
  | cons h _ ih => rw [List.map_cons, List.map_cons, ih, hR _ _ h]

/-- What holds of every definition and what is read from it holds of all that is read. -/
theorem forall_of_forall₂ {P : Text × α × List Diagnostic → Prop} (h : List.Forall₂ R definitions s)
    (hR : ∀ d e, R d e → P e) : ∀ e ∈ s, P e := by
  induction h with
  | nil => exact List.forall_mem_nil _
  | cons h _ ih => exact List.forall_mem_cons.mpr ⟨hR _ _ h, ih⟩

theorem mem_keys_entries {e : Text × α × List Diagnostic} (he : e ∈ s) :
    e.1 ∈ Assoc.keys (Section.entries s) := by
  rw [Section.entries, Assoc.mem_keys_ofList, Assoc.keys, List.map_map]
  exact List.mem_map_of_mem he

end Names

/-- A diagnostic is on the arguments of one of some definitions. -/
def OnArguments (names : List Text) (d : Diagnostic) : Prop :=
  d.code = malformedArgument.code ∧ ∃ name ∈ names, d.subject = some name

theorem onArguments_of_accounted {α β γ : Type} {kind : ItemKind α} {items : β → List α → Prop}
    {args : γ → List Argument} {definitions : List (Text × β)} {s : Section γ}
    (h : Accounted kind items args definitions s) :
    ∀ d ∈ Section.diagnostics s, OnArguments (Assoc.keys (Section.entries s)) d := by
  intro d hd
  obtain ⟨e, he, hd⟩ := List.mem_flatMap.mp hd
  have hsubject : ∀ e ∈ s, ∀ d ∈ e.2.2, d.code = malformedArgument.code ∧ d.subject = some e.1 := by
    refine forall_of_forall₂ h fun definition e ⟨hname, _, _, hitems⟩ ↦ ?_
    rw [hname]
    exact hitems.subject
  obtain ⟨hcode, hname⟩ := hsubject e he d hd
  exact ⟨hcode, e.1, mem_keys_entries he, hname⟩

theorem castDiagnosticsOn_arguments {names : List Text} {ds : List Diagnostic}
    (h : ∀ d ∈ ds, OnArguments names d) (name : Text) : castDiagnosticsOn name ds = [] := by
  rw [castDiagnosticsOn, List.filter_eq_nil_iff]
  intro d hd
  have hfailed : malformedArgument.code ≠ castFailed.code := by decide
  have hunknown : malformedArgument.code ≠ unknownType.code := by decide
  simp [(h d hd).1, hfailed, hunknown]

/-! ## Marked-up documents -/

/-- The definitions of the constants of a document. -/
def constantDefinitions (root : Tree) : List (Text × Tree) :=
  (treeDefinitions root "constants").filter fun e ↦ !skippedConstants.contains e.1

/-- The names of the constants of a document: in order the keys of the section under which there is a
map, but not those that are skipped. -/
def constantNames (root : Tree) : List Text :=
  match treeSection? root "constants" with
  | none => []
  | some s => s.index.keys.filter fun name ↦ name ∉ skippedConstants ∧ (s.get? name).any Tree.isMap

/-- The definitions of a section have the keys under which there is a map. -/
theorem keys_maps {t : Tree} {index : Assoc Text Nat}
    (h : ∀ e ∈ index, t.index.lookup e.1 = some e.2) :
    Assoc.keys ((index.filterMap fun e ↦ (t.children[e.2]?).map fun c ↦ (e.1, c)).filter
      fun e ↦ e.2.isMap) = index.keys.filter fun name ↦ (t.get? name).any Tree.isMap := by
  induction index with
  | nil => rfl
  | cons e index ih =>
    obtain ⟨he, hrest⟩ := List.forall_mem_cons.mp h
    have hget : t.get? e.1 = t.children[e.2]? := by rw [Markup.Tree.get?, he, Option.bind_some]
    have ih := ih hrest
    rw [Assoc.keys, Assoc.keys] at ih ⊢
    rw [List.map_cons, List.filter_cons, hget, ← ih]
    cases hchild : t.children[e.2]? with
    | none => simp [hchild]
    | some child => cases hmap : child.isMap <;> simp [hchild, hmap]

section Keys

variable {root : Tree} (h : root.KeysDiffer)
include h

theorem nodup_section {name : Text} {s : Tree} (hsection : treeSection? root name = some s) :
    s.index.keys.Nodup := by
  obtain ⟨hget, _⟩ := Option.filter_eq_some_iff.mp hsection
  exact h s (Markup.Tree.mem_nodes_of_get? hget)

theorem nodup_constantNames : (constantNames root).Nodup := by
  unfold constantNames
  split
  · exact List.nodup_nil
  · next hsection => exact (nodup_section h hsection).filter _

theorem keys_constantDefinitions :
    Assoc.keys (constantDefinitions root) = constantNames root := by
  rw [constantDefinitions, treeDefinitions, constantNames]
  cases hsection : treeSection? root "constants" with
  | none => rfl
  | some s =>
    have hmaps := keys_maps (t := s) fun e he ↦
      (Assoc.lookup_eq_some_iff_mem (nodup_section h hsection)).mpr he
    dsimp only
    rw [Assoc.keys_filter fun name ↦ !skippedConstants.contains name, Markup.Tree.entries, hmaps,
      List.filter_filter]
    apply List.filter_congr
    intro name _
    simp

end Keys

/-! ## Catalogues -/

/-- Every constant of a catalogue has a value or is reported, among all diagnostics of an extraction. In
order, these are diagnostics on arguments of functions, then those on the constants one after the other,
then diagnostics on arguments of events. -/
structure ConstantsReported (c : Catalogue) (ds : List Diagnostic) : Prop where
  reported : ∀ e ∈ c.constants, e.2.name = e.1 ∧ e.2.Reported ds
  order : ∃ before after,
    ds = before ++ c.constants.flatMap (fun e ↦ castDiagnosticsOn e.1 ds) ++ after ∧
    (∀ d ∈ before, OnArguments c.functions.keys d) ∧ ∀ d ∈ after, OnArguments c.events.keys d

theorem constantsReported_of_sections {fs : Section Catalogue.Function}
    {cs : Section Catalogue.Constant} {es : Section Catalogue.Event} {types : Assoc Text TypeNote}
    {ds : List Diagnostic} (hread : ∀ e ∈ cs, ReadConstant e.1 e.2.1 e.2.2)
    (hnames : (cs.map (·.1)).Nodup)
    (hds : ds = Section.diagnostics fs ++ (Section.diagnostics cs ++ Section.diagnostics es))
    (hfs : ∀ d ∈ Section.diagnostics fs, OnArguments (Assoc.keys (Section.entries fs)) d)
    (hes : ∀ d ∈ Section.diagnostics es, OnArguments (Assoc.keys (Section.entries es)) d) :
    ConstantsReported ⟨fs.entries, cs.entries, es.entries, types⟩ ds := by
  -- an argument can be of a function with the name of a constant: its code tells them apart
  have hown : ∀ e ∈ cs, castDiagnosticsOn e.1 ds = e.2.2 := by
    intro e he
    rw [hds, castDiagnosticsOn, List.filter_append, List.filter_append, ← castDiagnosticsOn,
      ← castDiagnosticsOn, ← castDiagnosticsOn, castDiagnosticsOn_arguments hfs,
      castDiagnosticsOn_arguments hes, List.nil_append, List.append_nil]
    exact castDiagnosticsOn_of_mem hread hnames e he
  have hentries : cs.entries = cs.map fun e ↦ (e.1, e.2.1) := by
    apply Assoc.ofList_of_nodup
    rw [Assoc.keys, List.map_map]
    exact hnames
  constructor
  · dsimp only
    rw [hentries, List.forall_mem_map]
    intro e he
    exact ⟨(hread e he).name_eq, (hread e he).reported (hown e he)⟩
  · refine ⟨_, _, ?_, hfs, hes⟩
    dsimp only
    rw [hentries, List.flatMap_map, List.flatMap_congr hown]
    exact hds.trans (List.append_assoc _ _ _).symm

/-- The numbers of a document do not begin with more digits than are converted: the costs of functions
and the texts of integer constants. -/
structure HasConvertibleNumbers (root : Tree) : Prop where
  costs : ∀ f ∈ treeDefinitions root "functions",
    (textOr f.2 "energy" "10").IsConvertible ∧ (textOr f.2 "sleep" "0").IsConvertible
  values : ∀ c ∈ constantDefinitions root, textOr c.2 "type" "void" = Text.ofString "integer" →
    (textOr c.2 "value" []).IsConvertible

theorem treeCost_hasResult {t : Tree} {key default : Text} :
    HasResult (treeCost t key default) ↔ (textOr t key default).IsConvertible := by
  rw [← Text.hasResult_leadingInt?, treeCost]
  refine (HasResult.bind_iff fun n _ ↦ iff_true_intro ?_).trans (and_iff_left trivial)
  cases n with
  | none => exact .ok trivial
  | some n => exact .ok trivial

/-- A marked-up document has a catalogue if its numbers are converted, whatever else it holds. -/
theorem hasResult_ofTree (effects : EffectTable) (root : Tree) :
    HasResult (ofTree effects root).result ↔ HasConvertibleNumbers root := by
  have hfunctions : HasResult (treeSection root "functions" (treeFunction effects)
      (treeDefinitions root "functions")).result ↔ ∀ f ∈ treeDefinitions root "functions",
        (textOr f.2 "energy" "10").IsConvertible ∧ (textOr f.2 "sleep" "0").IsConvertible := by
    rw [treeSection_hasResult]
    apply forall₂_congr
    intro f _
    rw [← treeCost_hasResult, ← treeCost_hasResult]
    simp only [treeFunction, Traced.result_bind, Traced.result_note, ok_bind]
    exact HasResult.bind_iff fun _ _ ↦ HasResult.returns_iff _
  have hconstants : HasResult (treeSection root "constants" treeConstant
      (constantDefinitions root)).result ↔
      ∀ c ∈ constantDefinitions root, textOr c.2 "type" "void" = Text.ofString "integer" →
        (textOr c.2 "value" []).IsConvertible := by
    rw [treeSection_hasResult]
    apply forall₂_congr
    intro c _
    rw [treeConstant, ← Text.hasResult_leadingInt?, Traced.result_bind]
    exact (HasResult.returns_iff _).trans (ConstantEntry.castConstant_hasResult ⟨_, _, []⟩)
  have hevents : HasResult (treeSection root "events" treeEvent
      (treeDefinitions root "events")).result := treeSection_hasResult.mpr fun _ _ ↦ .ok trivial
  have htypes : HasResult (treeSection root "types" treeType (treeDefinitions root "types")).result :=
    treeSection_hasResult.mpr fun _ _ ↦ .ok trivial
  have hboth : HasConvertibleNumbers root ↔ _ ∧ _ :=
    ⟨fun h ↦ ⟨h.costs, h.values⟩, fun h ↦ ⟨h.1, h.2⟩⟩
  rw [hboth]
  simp only [ofTree, Traced.result_bind]
  refine (HasResult.bind_iff fun _ _ ↦ ?_).trans (and_congr_left' hfunctions)
  refine (HasResult.bind_iff fun _ _ ↦ iff_true_intro ?_).trans
    ((and_congr_left' hconstants).trans (and_iff_left trivial))
  exact hevents.bind fun _ _ ↦ htypes.bind fun _ _ ↦ .ok trivial

section Reports

variable {effects : EffectTable} {notes : List Note} {c : Catalogue}

theorem ofTree_constants {root : Tree} (hkeys : root.KeysDiffer)
    (h : ofTree effects root = ⟨notes, .ok c⟩) :
    c.constants.keys = constantNames root ∧ c.constants.keys.Nodup ∧
      ConstantsReported c (diagnosticsIn notes) := by
  obtain ⟨fs, cs, es, _, hfs, hcs, hes, _, rfl, hnotes⟩ := ofTree_eq_ok h
  have hkeysNames := keys_constantDefinitions hkeys
  have hnodup := nodup_constantNames hkeys
  have hnames : cs.map (·.1) = constantNames root :=
    (names_of_forall₂ hcs fun _ _ ↦ And.left).trans hkeysNames
  have hentries : Assoc.keys (Section.entries cs) = constantNames root := by
    rw [keys_entries hcs (fun _ _ ↦ And.left) (hkeysNames ▸ hnodup)]
    exact hkeysNames
  refine ⟨hentries, hentries ▸ hnodup, ?_⟩
  apply constantsReported_of_sections _ (hnames ▸ hnodup) hnotes
  · exact onArguments_of_accounted (treeFunctions_accounted hfs)
  · exact onArguments_of_accounted (treeEvents_accounted hes)
  · exact forall_of_forall₂ hcs fun d e ⟨hname, hread⟩ ↦ hname ▸ treeConstant_read hread

theorem ofData_constants {data : Fields} {entries : List (Text × Fields)}
    (hentries : dataSection data "constants" = .ok entries) (hnames : (entries.map (·.1)).Nodup)
    (h : ofData effects data = ⟨notes, .ok c⟩) : ConstantsReported c (diagnosticsIn notes) := by
  obtain ⟨_, _, _, _, hconstants, _, fs, cs, es, hfs, hcs, hes, rfl, hnotes⟩ := ofData_eq_ok h
  cases hentries.symm.trans hconstants
  have hsame : cs.map (·.1) = entries.map (·.1) := names_of_forall₂ hcs fun _ _ ↦ And.left
  apply constantsReported_of_sections _ (hsame ▸ hnames) hnotes
  · exact onArguments_of_accounted (dataFunctions_accounted hfs)
  · exact onArguments_of_accounted (dataEvents_accounted hes)
  · exact forall_of_forall₂ hcs fun d e ⟨hname, hread⟩ ↦ hname ▸ dataConstant_read hread

end Reports

/-- Whatever a marked-up document holds, it has a catalogue if its numbers do not have more digits than
are converted. Its constants are the maps of the section under their keys in order, but for those that
are skipped. A constant has no value exactly if there is one diagnostic on its value, which says why; the
diagnostics on constants stand in the order of the constants between those on arguments. Diagnostics and
values agree in the same way for an indented document, where the names of the constants differ. -/
theorem constants_reported (effects : EffectTable) :
    (∀ root, HasResult (ofTree effects root).result ↔ HasConvertibleNumbers root) ∧
    (∀ root notes c, root.KeysDiffer → ofTree effects root = ⟨notes, .ok c⟩ →
      c.constants.keys = constantNames root ∧ c.constants.keys.Nodup ∧
      ConstantsReported c (diagnosticsIn notes)) ∧
    ∀ data entries notes c, dataSection data "constants" = .ok entries →
      (entries.map (·.1)).Nodup → ofData effects data = ⟨notes, .ok c⟩ →
      ConstantsReported c (diagnosticsIn notes) :=
  ⟨hasResult_ofTree effects, fun _ _ _ ↦ ofTree_constants, fun _ _ _ _ ↦ ofData_constants⟩

/-- A constant as the parts of a map. -/
def constantFields (type value : Text) : List Part :=
  [
    .element "key" [.text "type"], .element "string" [.text type],
    .element "key" [.text "value"], .element "string" [.text value]]

/-- A document with one constant. -/
def constantTree (type value : Text) : Tree :=
  Part.tree id "map" [.element "key" [.text "constants"],
    .element "map" [.element "key" [.text "X"], .element "map" (constantFields type value)]]

/-- The same document in indented form. -/
def constantData (type value : Text) : Fields :=
  [(.text "constants", .map [(.text "X",
    .map [(.text "type", .text type), (.text "value", .text value)])])]

/-- The integer constant `X` with a word as its text, in both forms. -/
theorem constants_reported_word :
    (∃ notes c, ofTree [] (constantTree "integer" "ten") = ⟨notes, .ok c⟩ ∧
      c.constants.keys = [Text.ofString "X"] ∧
      (castDiagnosticsOn "X" (diagnosticsIn notes)).map (·.code) = [castFailed.code]) ∧
    ∃ notes c, ofData [] (constantData "integer" "ten") = ⟨notes, .ok c⟩ ∧
      (castDiagnosticsOn "X" (diagnosticsIn notes)).map (·.code) = [castFailed.code] := by
  obtain ⟨-, htree, hdata⟩ := constants_reported []
  constructor
  · refine ⟨_, _, rfl, ?_⟩
    obtain ⟨hkeys, -, hreported⟩ :=
      htree (constantTree "integer" "ten") _ _ (Part.keysDiffer_tree _ _ _) rfl
    refine ⟨hkeys, ?_⟩
    exact (hreported.reported _ List.mem_cons_self).2.castFailed ⟨_, rfl, .inl ⟨rfl, by decide⟩⟩
  · refine ⟨_, _, rfl, ?_⟩
    have hreported :=
      hdata (constantData "integer" "ten") _ _ _ rfl (List.pairwise_singleton _ _) rfl
    exact (hreported.reported _ List.mem_cons_self).2.castFailed ⟨_, rfl, .inl ⟨rfl, by decide⟩⟩

/-- The text of an integer constant can have too many digits for the document to have a catalogue. -/
theorem ofTree_refuses_constant :
    ¬ ∀ effects (root : Tree), root.KeysDiffer → HasResult (ofTree effects root).result := by
  intro h
  have hread (value : Text) : HasResult value.leadingInt? := by
    have hdefinitions : constantDefinitions (constantTree "integer" value) =
        [(Text.ofString "X", Part.tree id "map" (constantFields "integer" value))] := rfl
    have hresult := h [] (constantTree "integer" value) (Part.keysDiffer_tree _ _ _)
    have hvalues := ((hasResult_ofTree [] _).mp hresult).values
    rw [hdefinitions] at hvalues
    exact (Text.hasResult_leadingInt? _).mpr (hvalues _ List.mem_cons_self rfl)
  have hlong := hread (Text.ofInt (Nat.pow 10 DigitLimit.limit : Nat))
  rw [Text.leadingInt?_ofInt, Int.natAbs_natCast, if_neg (Nat.lt_irrefl _)] at hlong
  obtain ⟨_, hnumber⟩ := hlong.exists_ok
  cases hnumber

end Keywords

end ScriptDefs
