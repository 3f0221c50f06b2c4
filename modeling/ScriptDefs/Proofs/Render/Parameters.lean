import ScriptDefs.Proofs.Render.Output

/-!
# Parameters of snippets

Snippets show argument names in lower case, split into words and shortened. Two names that differ in
more than letter case and underscores are still different when they are split. They are shown alike
only by being shortened: if both end in `id`, or if a beginning of little worth is left out of one or
both and the rests are equal.
-/

namespace ScriptDefs

namespace CodePoint

/-- The small sigma also in place of the one that ends a word. -/
def plainSigma (c : CodePoint) : CodePoint := if c = .scalar 'ς' then .scalar 'σ' else c

end CodePoint

namespace Text

variable {s t : Text}

/-! ## Letter case and underscores -/

/-- The text in lower case, each code point by itself. -/
def plainLower (t : Text) : Text := (t.flatMap CodePoint.toLower).map CodePoint.plainSigma

/-- The text without underscores. -/
def withoutUnderscores (t : Text) : Text := t.filter (· ≠ .scalar '_')

/-- What is left of a text when letter case and underscores do not matter. -/
def loose (t : Text) : Text := t.plainLower.withoutUnderscores

theorem plainLower_cons (c : CodePoint) (t : Text) :
    plainLower (c :: t) = c.toLower.map CodePoint.plainSigma ++ t.plainLower := by
  rw [plainLower, List.flatMap_cons, List.map_append, plainLower]

theorem withoutUnderscores_append (s t : Text) :
    withoutUnderscores (s ++ t) = s.withoutUnderscores ++ t.withoutUnderscores :=
  List.filter_append s t

/-- The neighbours of a sigma decide nothing but its form. -/
theorem map_plainSigma_lowerFrom (before t : Text) :
    (lowerFrom before t).map CodePoint.plainSigma = t.plainLower := by
  induction t generalizing before with
  | nil => rfl
  | cons c t ih =>
    rw [lowerFrom, List.map_append, ih, plainLower_cons]
    congr 1
    by_cases hc : c = .scalar 'Σ'
    · subst hc
      rw [if_pos rfl]
      split <;> decide
    · rw [if_neg hc]

theorem loose_underscore_cons (t : Text) : loose (.scalar '_' :: t) = t.loose := by
  have hself : (CodePoint.toLower (.scalar '_')).map CodePoint.plainSigma = [.scalar '_'] := by
    decide
  rw [loose, plainLower_cons, hself]
  exact List.filter_cons_of_neg (by simp)

theorem loose_cons_congr (c : CodePoint) (h : s.loose = t.loose) :
    loose (c :: s) = loose (c :: t) := by
  rw [loose, loose, plainLower_cons, plainLower_cons, withoutUnderscores_append,
    withoutUnderscores_append]
  exact congrArg _ h

/-- Only underscores are put between words. -/
theorem loose_splitWords (t : Text) : t.splitWords.loose = t.loose := by
  fun_induction splitWords t with
  | case1 c d t hsplit ih => rw [loose_underscore_cons, loose_cons_congr c ih]
  | case2 c d t hsplit ih => exact loose_cons_congr c ih
  | case3 t hshort => rfl

theorem snakeCase_loose (t : Text) :
    withoutUnderscores (t.snakeCase.map CodePoint.plainSigma) = t.loose := by
  cases t with
  | nil => rfl
  | cons c t =>
    rw [snakeCase, lower, map_plainSigma_lowerFrom]
    exact loose_cons_congr c (loose_splitWords t)

/-- Splitting tells names apart that differ in more than letter case and underscores. -/
theorem loose_eq_of_snakeCase_eq (h : s.snakeCase = t.snakeCase) : s.loose = t.loose := by
  rw [← snakeCase_loose, ← snakeCase_loose, h]

/-! ## Shortened names -/

/-- The text without the first of the dropped beginnings that it has, if any. -/
def withoutStart (t : Text) : Text :=
  match droppedStarts.find? fun s ↦ s.isPrefixOf t with
  | some start => t.drop start.length
  | none => t

/-- The text has a beginning that is dropped. -/
def LosesStart (t : Text) : Prop := ∃ start ∈ droppedStarts, start <+: t

instance (t : Text) : Decidable t.LosesStart :=
  inferInstanceAs (Decidable (∃ start ∈ droppedStarts, start <+: t))

theorem simplifyName_eq (t : Text) :
    t.simplifyName = if t.endsWith "id" then Text.ofString "id" else t.withoutStart := rfl

theorem withoutStart_of_not_losesStart (h : ¬ t.LosesStart) : t.withoutStart = t := by
  have hnone : (droppedStarts.find? fun s ↦ s.isPrefixOf t) = none :=
    List.find?_eq_none.mpr fun start hstart hprefix ↦
      h ⟨start, hstart, List.isPrefixOf_iff_prefix.mp hprefix⟩
  rw [withoutStart, hnone]

theorem exists_start (h : t.LosesStart) : ∃ start ∈ droppedStarts, t = start ++ t.withoutStart := by
  cases hfind : droppedStarts.find? fun s ↦ s.isPrefixOf t with
  | none =>
    obtain ⟨start, hstart, hprefix⟩ := h
    exact absurd (List.isPrefixOf_iff_prefix.mpr hprefix) (List.find?_eq_none.mp hfind start hstart)
  | some start =>
    have hprefix : start.isPrefixOf t = true := by simpa using List.find?_some hfind
    obtain ⟨rest, rfl⟩ := List.isPrefixOf_iff_prefix.mp hprefix
    refine ⟨start, List.mem_of_find?_eq_some hfind, ?_⟩
    rw [withoutStart, hfind]
    simp

/-- What does not contain a code point ends a text just if it ends what follows that code point. -/
theorem suffix_append_cons_iff {ending w : Text} {c : CodePoint} (h : c ∉ ending) :
    ending <:+ w ++ c :: t ↔ ending <:+ t := by
  constructor
  · intro hending
    have ht : c :: t <:+ w ++ c :: t := List.suffix_append _ _
    rcases Nat.lt_or_ge t.length ending.length with hlt | hge
    · have hmem := (List.suffix_of_suffix_length_le ht hending hlt).subset List.mem_cons_self
      exact absurd hmem h
    · exact List.suffix_of_suffix_length_le hending
        ((List.suffix_cons c t).trans ht) hge
  · exact fun hending ↦ (hending.trans (List.suffix_cons c t)).trans (List.suffix_append _ _)

/-- A dropped beginning is no part of the ending of an identifier. -/
theorem endsWith_id_withoutStart (t : Text) : t.withoutStart.endsWith "id" = t.endsWith "id" := by
  by_cases hstart : t.LosesStart
  · obtain ⟨start, hmem, ht⟩ := exists_start hstart
    have hunderscore : ∀ start ∈ droppedStarts, start = start.dropLast ++ [.scalar '_'] := by
      decide
    have hsplit : t = start.dropLast ++ .scalar '_' :: t.withoutStart := by
      rw [List.append_cons, ← hunderscore start hmem, ← ht]
    rw [Bool.eq_iff_iff, endsWith, endsWith, List.isSuffixOf_iff_suffix,
      List.isSuffixOf_iff_suffix]
    conv => rhs; rw [hsplit]
    exact (suffix_append_cons_iff (by decide)).symm
  · rw [withoutStart_of_not_losesStart hstart]

theorem endsWith_id_of_withoutStart (h : t.withoutStart = "id") : t.endsWith "id" = true := by
  rw [← endsWith_id_withoutStart, h]
  decide

theorem endsWith_id_congr (h : s.withoutStart = t.withoutStart) :
    s.endsWith "id" = t.endsWith "id" := by
  rw [← endsWith_id_withoutStart, h, endsWith_id_withoutStart]

/-- Identifiers are shortened to the same text, and to no text that others are shortened to. -/
theorem simplifyName_eq_iff :
    s.simplifyName = t.simplifyName ↔
      (s.endsWith "id" = true ∧ t.endsWith "id" = true) ∨ s.withoutStart = t.withoutStart := by
  rw [simplifyName_eq, simplifyName_eq]
  by_cases hs : s.endsWith "id" = true
  · by_cases ht : t.endsWith "id" = true
    · simp [hs, ht]
    · rw [if_pos hs, if_neg ht]
      refine iff_of_false (fun h ↦ ht (endsWith_id_of_withoutStart h.symm)) ?_
      rintro (⟨-, h⟩ | h)
      · exact ht h
      · exact ht ((endsWith_id_congr h).symm.trans hs)
  · rw [if_neg hs, or_iff_right fun h ↦ hs h.1]
    by_cases ht : t.endsWith "id" = true
    · rw [if_pos ht]
      refine iff_of_false (fun h ↦ hs (endsWith_id_of_withoutStart h)) fun h ↦ ?_
      exact hs ((endsWith_id_congr h).trans ht)
    · rw [if_neg ht]

/-- Two names are shown alike: both are those of identifiers, or a beginning is left out of one or both
and the rests are equal. -/
def SharesParameter (s t : Text) : Prop :=
  (s.snakeCase.endsWith "id" = true ∧ t.snakeCase.endsWith "id" = true) ∨
    (s.snakeCase.LosesStart ∨ t.snakeCase.LosesStart) ∧
      s.snakeCase.withoutStart = t.snakeCase.withoutStart

instance (s t : Text) : Decidable (SharesParameter s t) :=
  inferInstanceAs (Decidable (_ ∧ _ ∨ _ ∧ _))

/-- Names that differ in more than letter case and underscores are shown alike only by being
shortened. -/
theorem parameterName_eq_iff (h : s.loose ≠ t.loose) :
    s.parameterName = t.parameterName ↔ SharesParameter s t := by
  rw [parameterName, parameterName, simplifyName_eq_iff, SharesParameter]
  refine or_congr Iff.rfl (iff_and_self.mpr fun heq ↦ ?_)
  by_contra hkeeps
  rw [not_or] at hkeeps
  rw [withoutStart_of_not_losesStart hkeeps.1, withoutStart_of_not_losesStart hkeeps.2] at heq
  exact h (loose_eq_of_snakeCase_eq heq)

/-- The names shown for arguments whose names differ in more than letter case and underscores. -/
theorem nodup_parameterNames {names : List Text} (h : names.Pairwise fun s t ↦ s.loose ≠ t.loose) :
    (names.map parameterName).Nodup ↔ names.Pairwise fun s t ↦ ¬ SharesParameter s t := by
  rw [List.Nodup, List.pairwise_map]
  constructor
  · exact h.imp₂ fun s t hst hne hshares ↦ hne ((parameterName_eq_iff hst).mpr hshares)
  · exact h.imp₂ fun s t hst hne heq ↦ hne ((parameterName_eq_iff hst).mp heq)

end Text

/-! ## Snippets -/

namespace Render

/-- The types of an argument are shown so. -/
def ShowsTypes (a : Variable) (t : Text) : Prop :=
  ∃ ts, BaseType.formatAll a.types = .ok ts ∧ t = Text.joinWith " | " ts

/-- The head of a handler with parameters of these names and types. -/
def headWith (name : Text) (parameters types : List Text) : Text :=
  Text.ofString "function " ++ name ++ .scalar '(' ::
    Text.joinWith ", " (List.zipWith (fun p t ↦ p ++ Text.ofString ": " ++ t) parameters types) ++
      [.scalar ')']

theorem snippetParameter_eq {a : Variable} {name p : Text} (hname : a.name = .text name)
    (h : snippetParameter a = .ok p) :
    ∃ t, ShowsTypes a t ∧ p = name.parameterName ++ Text.ofString ": " ++ t := by
  rw [snippetParameter, hname] at h
  cases hts : BaseType.formatAll a.types with
  | error e =>
    rw [hts] at h
    cases h
  | ok ts =>
    rw [hts] at h
    cases h
    exact ⟨_, ⟨ts, hts, rfl⟩, rfl⟩

theorem snippetParameters_eq {args : List Variable} {names ps : List Text}
    (hnames : args.map Variable.name = names.map Datum.text)
    (h : args.mapM snippetParameter = .ok ps) :
    ∃ types, List.Forall₂ ShowsTypes args types ∧
      ps = List.zipWith (fun p t ↦ p ++ Text.ofString ": " ++ t)
        (names.map Text.parameterName) types := by
  have hall := forall₂_of_mapM h
  clear h
  induction hall generalizing names with
  | nil => exact ⟨[], .nil, by simp⟩
  | @cons a p args ps hp hps ih =>
    cases names with
    | nil => cases hnames
    | cons name names =>
      rw [List.map_cons, List.map_cons, List.cons.injEq] at hnames
      obtain ⟨t, ht, rfl⟩ := snippetParameter_eq hnames.1 hp
      obtain ⟨types, htypes, rfl⟩ := ih hnames.2
      exact ⟨t :: types, .cons ht htypes, rfl⟩

end Render

/-- In the snippet of an event whose argument names differ in more than letter case and underscores the
parameters have different names, unless two of the names are shown alike by being shortened. With
well-formed types, names and descriptions there are snippets, unless a type of an argument shows an
integer with too many digits. -/
theorem Document.snippets_distinguish {d : Document} {e : Text × Event} {names : List Text}
    (he : e ∈ d.events) (hnames : e.2.args.map Variable.name = names.map Datum.text)
    (hdistinct : names.Pairwise fun s t ↦ s.loose ≠ t.loose) :
    (d.WellFormed Datum.IsText →
      (HasResult d.snippetEntries ↔ ∀ e ∈ d.events, Variable.AllWritable e.2.args)) ∧
      ∀ entries, d.snippetEntries = .ok entries →
        ∃ fields types, (e.1, .object fields) ∈ entries ∧
          List.Forall₂ Render.ShowsTypes e.2.args types ∧
          fields.lookup (Text.ofString "body") =
            some (.list [.text (Render.headWith e.1 (names.map Text.parameterName) types)]) ∧
          ((names.map Text.parameterName).Nodup ↔
            names.Pairwise fun s t ↦ ¬ Text.SharesParameter s t) := by
  constructor
  · exact fun hd ↦ (snippetEntries_prints hd).hasResult_iff
  · intro entries hentries
    obtain ⟨entry, hentry, hsnippet⟩ := exists_of_mem_mapM hentries he
    obtain ⟨snippet, hsnippet, hpair⟩ := bind_eq_ok.mp hsnippet
    obtain ⟨head, hhead, hsnippet⟩ := bind_eq_ok.mp hsnippet
    obtain ⟨parameters, hparameters, hhead⟩ := bind_eq_ok.mp hhead
    obtain ⟨types, htypes, rfl⟩ := Render.snippetParameters_eq hnames hparameters
    cases hhead
    cases hsnippet
    cases hpair
    exact ⟨_, types, hentry, htypes, rfl, Text.nodup_parameterNames hdistinct⟩

namespace Shortened

/-- An argument with a name. -/
def argument (name : Text) : Variable := .plain (.text name) (.text []) [.simple .uuid]

/-- A document with one event. -/
def document (names : List Text) : Document where
  globalTable := .mk "SLua" []
  types := []
  classes := []
  events := [("hit", { name := "hit", desc := .text [], link := [], args := names.map argument })]

theorem wellFormed_argument (name : Text) : (argument name).WellFormed Datum.IsText :=
  ⟨trivial, trivial, List.cons_ne_nil _ _, trivial, trivial⟩

theorem wellFormed_document (names : List Text) : (document names).WellFormed Datum.IsText where
  globalTable := trivial
  types := List.forall_mem_nil _
  classes := List.forall_mem_nil _
  events := by
    refine List.forall_mem_singleton.mpr ⟨trivial, ?_⟩
    refine Variable.allWellFormed_iff.mpr fun a ha ↦ ?_
    obtain ⟨name, -, rfl⟩ := List.mem_map.mp ha
    exact wellFormed_argument name

theorem allWritable_document (names : List Text) :
    ∀ e ∈ (document names).events, Variable.AllWritable e.2.args := by
  refine List.forall_mem_singleton.mpr (Variable.allWritable_iff.mpr fun a ha ↦ ?_)
  obtain ⟨name, -, rfl⟩ := List.mem_map.mp ha
  exact ⟨trivial, trivial⟩

/-- Names of which one has a beginning that is dropped and another ends in `id`. -/
def names : List Text := ["NumberOfTouches", "AvatarID", "Channel"]

/-- Names that end in `id`, and that differ in more than letter case and underscores. -/
def identifiers : List Text := ["AvatarID", "ObjectID"]

end Shortened

/-- Names that are shortened to different texts are told apart. -/
theorem Document.snippets_distinguish_shortened :
    HasResult (Shortened.document Shortened.names).snippetEntries ∧
      ∃ entries fields types, (Shortened.document Shortened.names).snippetEntries = .ok entries ∧
        (Text.ofString "hit", .object fields) ∈ entries ∧
        fields.lookup (Text.ofString "body") = some (.list [.text (Render.headWith "hit"
          (Shortened.names.map Text.parameterName) types)]) ∧
        (Shortened.names.map Text.parameterName).Nodup := by
  obtain ⟨hresult, hentries⟩ := @Document.snippets_distinguish
    (Shortened.document Shortened.names) _ Shortened.names List.mem_cons_self rfl
    (by decide +kernel)
  have hsnippets := (hresult (Shortened.wellFormed_document _)).mpr
    (Shortened.allWritable_document Shortened.names)
  obtain ⟨entries, hok⟩ := hsnippets.exists_ok
  obtain ⟨fields, types, hmem, -, hbody, hnodup⟩ := hentries entries hok
  exact ⟨hsnippets, entries, fields, types, hok, hmem, hbody, hnodup.mpr (by decide +kernel)⟩

/-- The parameters for names that end in `id` have one name, though the names differ. -/
theorem Document.snippets_repeat_parameter :
    (Shortened.identifiers.Pairwise fun s t ↦ s.loose ≠ t.loose) ∧
      ¬ (Shortened.identifiers.map Text.parameterName).Nodup ∧
      ∃ entries fields, (Shortened.document Shortened.identifiers).snippetEntries = .ok entries ∧
        (Text.ofString "hit", .object fields) ∈ entries ∧
        fields.lookup (Text.ofString "body") =
          some (.list [.text "function hit(id: uuid, id: uuid)"]) := by
  refine ⟨by decide +kernel, by decide +kernel, _, _, rfl, List.mem_singleton.mpr rfl, ?_⟩
  rfl

end ScriptDefs
