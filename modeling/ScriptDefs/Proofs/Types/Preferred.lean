import Mathlib.Data.List.Infix
import Mathlib.Data.Prod.Lex
import ScriptDefs.Proofs.Types.Printing

/-!
# The preferred sample

Of all candidates the preferred sample is the first one whose rank is the least: fewer integer
literals come before more, and then more arguments before fewer. There is one as soon as all
candidates have samples; else the first candidate without one tells why.
-/

namespace ScriptDefs

/-! ## Occurrences -/

namespace Text

/-- The number of places where one text occurs in another. -/
def places (part t : Text) : Nat := t.tails.countP part.isPrefixOf

variable {a c : CodePoint} {part t u : Text}

theorem places_cons (part : Text) (c : CodePoint) (t : Text) :
    places part (c :: t) = places part t + if part.isPrefixOf (c :: t) then 1 else 0 := by
  rw [places, List.tails_cons, List.countP_cons, places]

/-- No place lies in a text without the first code point of what is looked for. -/
theorem places_append_of_notMem (h : a ∉ u) : places (a :: part) (u ++ t) = places (a :: part) t := by
  induction u with
  | nil => rfl
  | cons c u ih =>
    rw [List.mem_cons, not_or] at h
    have hc : ((a :: part).isPrefixOf (c :: (u ++ t))) = false := by
      rw [List.isPrefixOf_cons_cons, beq_false_of_ne h.1, Bool.false_and]
    rw [List.cons_append, places_cons, hc, ih h.2]
    rfl

/-- A text whose first code point does not come again in it does not overlap itself: counted from the
left, no place is passed over. -/
theorem countFrom_eq_places (h : a ∉ part) (skip : Nat) (t : Text) :
    countFrom (a :: part) skip t = places (a :: part) (t.drop skip) := by
  induction t generalizing skip with
  | nil => simp [countFrom, places]
  | cons c t ih =>
    cases skip with
    | succ skip => rw [countFrom, ih, List.drop_succ_cons]
    | zero =>
      rw [countFrom, List.drop_zero, places_cons]
      by_cases hstart : (a :: part).isPrefixOf (c :: t)
      · obtain ⟨rest, hrest⟩ := List.isPrefixOf_iff_prefix.mp hstart
        have ht : part ++ rest = t := (List.cons.inj hrest).2
        rw [if_pos hstart, if_pos hstart, ih, List.length_cons, Nat.add_sub_cancel, ← ht,
          List.drop_left, places_append_of_notMem h]
      · rw [if_neg hstart, if_neg hstart, ih, List.drop_zero, Nat.add_zero]

theorem occurrences_integerWrapper (t : Text) :
    occurrences Sample.integerWrapper t = places Sample.integerWrapper t :=
  countFrom_eq_places (by decide) 0 t

end Text

/-! ## Candidates -/

namespace Function

/-- The first signature is tried at offset 0, every later one at offsets 0 to 4. -/
def IsCandidate (f : Function) (index offset : Nat) : Prop :=
  index = 0 ∧ offset = 0 ∨ 1 ≤ index ∧ index < f.signatures.length ∧ offset ≤ 4

variable {f : Function} {types : Assoc Text Alias} {tables : List Text}

theorem mem_sampleCandidates {candidate : Nat × Nat} :
    candidate ∈ f.sampleCandidates ↔ f.IsCandidate candidate.1 candidate.2 := by
  obtain ⟨index, offset⟩ := candidate
  have hoffset : offset ∈ Sample.offsets ↔ offset ≤ 4 := by
    simp only [Sample.offsets, List.mem_cons, List.not_mem_nil, or_false]
    omega
  have hindex : index ∈ (List.range f.signatures.length).drop 1 ↔
      1 ≤ index ∧ index < f.signatures.length := by
    rw [List.range_eq_range', List.drop_range', List.mem_range'_1]
    omega
  simp only [sampleCandidates, IsCandidate, List.mem_cons, List.mem_flatMap, List.mem_map,
    Prod.mk.injEq, exists_eq_right_right, hindex, hoffset]
  simp [and_assoc]

/-- Candidates are tried in the order of their signatures, then of their offsets. -/
theorem pairwise_sampleCandidates (f : Function) :
    f.sampleCandidates.Pairwise fun c c' ↦ toLex c < toLex c' := by
  rw [sampleCandidates, List.pairwise_cons]
  constructor
  · intro c hc
    obtain ⟨index, hindex, hc⟩ := List.mem_flatMap.mp hc
    obtain ⟨offset, _, rfl⟩ := List.mem_map.mp hc
    rw [List.range_eq_range', List.drop_range', List.mem_range'_1] at hindex
    exact Prod.Lex.toLex_lt_toLex.mpr (.inl hindex.1)
  · rw [List.pairwise_flatMap]
    constructor
    · intro index _
      rw [List.pairwise_map]
      have hoffsets : Sample.offsets.Pairwise (· < ·) := by decide
      refine hoffsets.imp ?_
      intro o o' h
      exact Prod.Lex.toLex_lt_toLex.mpr (.inr ⟨rfl, h⟩)
    · refine (List.pairwise_lt_range.sublist (List.drop_sublist 1 _)).imp fun {i j} h ↦ ?_
      intro c hc c' hc'
      obtain ⟨o, _, rfl⟩ := List.mem_map.mp hc
      obtain ⟨o', _, rfl⟩ := List.mem_map.mp hc'
      exact Prod.Lex.toLex_lt_toLex.mpr (.inl h)

/-! ## Ranks -/

/-- The rank of a sample text for a signature: how many integer literals it has, then how many
arguments the signature has, more of them first. -/
def sampleRank (f : Function) (index : Nat) (text : Text) : ℕ ×ₗ ℤ :=
  toLex (Text.places Sample.integerWrapper text,
    -(((f.signatures[index]?).map (·.args.length)).getD 0 : ℕ))

/-- The rank of a ranked sample. -/
def rankOf (r : Nat × Nat × Sample) : ℕ ×ₗ ℤ := toLex (r.1, -(r.2.1 : ℤ))

theorem betterSample_eq (best next : Nat × Nat × Sample) :
    betterSample best next = if rankOf next < rankOf best then next else best := by
  have hbetter : (next.1 < best.1 ∨ (next.1 = best.1 ∧ best.2.1 < next.2.1)) ↔
      rankOf next < rankOf best := by
    rw [rankOf, rankOf, Prod.Lex.toLex_lt_toLex]
    simp
  rw [betterSample]
  exact if_congr hbetter rfl rfl

/-- A candidate has a ranked sample when it has a sample. -/
theorem rankedSample_eq_ok {c : Nat × Nat} {r : Nat × Nat × Sample} :
    f.rankedSample types tables c = .ok r ↔
      ∃ text, f.sample types tables c.1 c.2 none = .ok text ∧
        r = (Text.occurrences Sample.integerWrapper text,
          ((f.signatures[c.1]?).map (·.args.length)).getD 0, ⟨text, c.1⟩) := by
  rw [rankedSample, bind_eq_ok]
  refine exists_congr fun text ↦ and_congr_right fun _ ↦ ?_
  rw [pure_eq_ok, Except.ok.injEq, eq_comm]

theorem rankOf_of_rankedSample {c : Nat × Nat} {r : Nat × Nat × Sample}
    (h : f.rankedSample types tables c = .ok r) :
    f.sample types tables c.1 c.2 none = .ok r.2.2.text ∧ r.2.2.signature = c.1 ∧
      rankOf r = f.sampleRank c.1 r.2.2.text := by
  obtain ⟨text, htext, rfl⟩ := rankedSample_eq_ok.mp h
  refine ⟨htext, rfl, ?_⟩
  rw [rankOf, sampleRank, Text.occurrences_integerWrapper]

theorem rankedSample_eq_error {c : Nat × Nat} {e : SampleError} :
    f.rankedSample types tables c = .error e ↔
      f.sample types tables c.1 c.2 none = .error e := by
  rw [rankedSample]
  cases f.sample types tables c.1 c.2 none with
  | error e' => simp
  | ok text => simp

/-! ## The best candidate -/

/-- One candidate is the first of those with the least rank, and all of them have samples. -/
structure IsPreferred (f : Function) (types : Assoc Text Alias) (tables : List Text)
    (index offset : Nat) (text : Text) : Prop where
  candidate : f.IsCandidate index offset
  sample : f.sample types tables index offset none = .ok text
  least : ∀ index' offset', f.IsCandidate index' offset' →
    ∃ text', f.sample types tables index' offset' none = .ok text' ∧
      f.sampleRank index text ≤ f.sampleRank index' text' ∧
      (f.sampleRank index' text' = f.sampleRank index text →
        toLex (index, offset) ≤ toLex (index', offset'))

/-- One candidate is the first of those without a sample. -/
structure IsFirstFailure (f : Function) (types : Assoc Text Alias) (tables : List Text)
    (index offset : Nat) (e : SampleError) : Prop where
  candidate : f.IsCandidate index offset
  fails : f.sample types tables index offset none = .error e
  first : ∀ index' offset', f.IsCandidate index' offset' →
    toLex (index', offset') < toLex (index, offset) →
    ∃ text, f.sample types tables index' offset' none = .ok text

/-- Going through candidates in order keeps the first of those with the least rank. -/
theorem foldl_betterSample {cs : List (Nat × Nat)} {rs : List (Nat × Nat × Sample)}
    (h : List.Forall₂ (fun c r ↦ f.rankedSample types tables c = .ok r) cs rs)
    {c₀ : Nat × Nat} {r₀ : Nat × Nat × Sample} (h₀ : f.rankedSample types tables c₀ = .ok r₀)
    (hsorted : (c₀ :: cs).Pairwise fun c c' ↦ toLex c < toLex c') :
    ∃ c ∈ c₀ :: cs, f.rankedSample types tables c = .ok (rs.foldl betterSample r₀) ∧
      ∀ c' ∈ c₀ :: cs, ∃ r', f.rankedSample types tables c' = .ok r' ∧
        rankOf (rs.foldl betterSample r₀) ≤ rankOf r' ∧
        (rankOf r' = rankOf (rs.foldl betterSample r₀) → toLex c ≤ toLex c') := by
  induction h generalizing c₀ r₀ with
  | nil =>
    exact ⟨c₀, List.mem_singleton_self _, h₀, List.forall_mem_singleton.mpr
      ⟨r₀, h₀, le_rfl, fun _ ↦ le_rfl⟩⟩
  | @cons c₁ r₁ cs rs h₁ _ ih =>
    obtain ⟨hfirst, hrest⟩ := List.pairwise_cons.mp hsorted
    have hlt : toLex c₀ < toLex c₁ := hfirst c₁ List.mem_cons_self
    rw [List.foldl_cons, betterSample_eq]
    by_cases hbetter : rankOf r₁ < rankOf r₀
    · -- the former best one has a greater rank than the next one, and so than the best of all
      obtain ⟨c, hc, hr, hleast⟩ := ih h₁ hrest
      rw [if_pos hbetter]
      obtain ⟨r, hr₁, hle, _⟩ := hleast c₁ List.mem_cons_self
      obtain rfl : r₁ = r := Except.ok.inj (h₁.symm.trans hr₁)
      refine ⟨c, List.mem_cons_of_mem _ hc, hr, List.forall_mem_cons.mpr ⟨?_, hleast⟩⟩
      exact ⟨r₀, h₀, (hle.trans_lt hbetter).le, fun heq ↦ absurd heq (hle.trans_lt hbetter).ne'⟩
    · -- the next one comes later and is no better
      obtain ⟨c, hc, hr, hleast⟩ := ih h₀ (List.pairwise_cons.mpr
        ⟨fun c hc ↦ hfirst c (List.mem_cons_of_mem _ hc), (List.pairwise_cons.mp hrest).2⟩)
      rw [if_neg hbetter]
      obtain ⟨r, hr₀, hle, hearly⟩ := hleast c₀ List.mem_cons_self
      obtain rfl : r₀ = r := Except.ok.inj (h₀.symm.trans hr₀)
      have hle₁ : rankOf r₀ ≤ rankOf r₁ := not_lt.mp hbetter
      refine ⟨c, ?_, hr, ?_⟩
      · rcases List.mem_cons.mp hc with rfl | hc
        · exact List.mem_cons_self
        · exact List.mem_cons_of_mem _ (List.mem_cons_of_mem _ hc)
      · refine List.forall_mem_cons.mpr ⟨⟨r₀, h₀, hle, hearly⟩, List.forall_mem_cons.mpr ⟨?_, ?_⟩⟩
        · refine ⟨r₁, h₁, hle.trans hle₁, fun heq ↦ ?_⟩
          exact (hearly (le_antisymm (heq ▸ hle₁) hle)).trans hlt.le
        · exact fun c' hc' ↦ hleast c' (List.mem_cons_of_mem _ hc')

/-- All candidates are ranked before the best of them is found. -/
theorem preferredSample_eq (f : Function) (types : Assoc Text Alias) (tables : List Text) :
    (∀ first others, f.sampleCandidates.mapM (f.rankedSample types tables) = .ok (first :: others) →
      f.preferredSample types tables = .ok (others.foldl betterSample first).2.2) ∧
    ∀ e, f.sampleCandidates.mapM (f.rankedSample types tables) = .error e →
      f.preferredSample types tables = .error e := by
  have hcandidates : f.sampleCandidates = (0, 0) :: f.sampleCandidates.drop 1 := rfl
  rw [hcandidates, List.mapM_cons, preferredSample]
  cases f.rankedSample types tables (0, 0) with
  | error e =>
    constructor
    · intro first others h
      cases h
    · intro e' h
      cases h
      rfl
  | ok first =>
    rw [ok_bind, ok_bind]
    cases (f.sampleCandidates.drop 1).mapM (f.rankedSample types tables) with
    | error e =>
      constructor
      · intro first' others h
        cases h
      · intro e' h
        cases h
        rfl
    | ok others =>
      constructor
      · intro first' others' h
        cases h
        rfl
      · intro e h
        cases h

/-- If all candidates have samples, the best of them is that of the first candidate with the least
rank. -/
theorem isPreferred_of_ranked {ranked : List (Nat × Nat × Sample)}
    (h : f.sampleCandidates.mapM (f.rankedSample types tables) = .ok ranked) :
    ∃ first others, ranked = first :: others ∧ ∃ index offset text,
      f.IsPreferred types tables index offset text ∧
      (others.foldl betterSample first).2.2 = ⟨text, index⟩ := by
  have hcandidates : f.sampleCandidates = (0, 0) :: f.sampleCandidates.drop 1 := rfl
  have hranked := forall₂_of_mapM h
  have hsorted := f.pairwise_sampleCandidates
  rw [hcandidates] at hranked hsorted
  cases hranked with
  | @cons _ first _ others hfirst hothers =>
    obtain ⟨c, hc, hr, hleast⟩ := foldl_betterSample hothers hfirst hsorted
    obtain ⟨hsample, hindex, hrank⟩ := rankOf_of_rankedSample hr
    refine ⟨first, others, rfl, c.1, c.2, _, ⟨mem_sampleCandidates.mp hc, hsample, ?_⟩, ?_⟩
    · intro index offset hcandidate
      obtain ⟨r, hr, hle, hearly⟩ := hleast (index, offset) (mem_sampleCandidates.mpr hcandidate)
      obtain ⟨hsample', -, hrank'⟩ := rankOf_of_rankedSample hr
      rw [hrank, hrank'] at hle hearly
      exact ⟨_, hsample', hle, hearly⟩
    · rw [← hindex]

/-- Otherwise the failure is that of the first candidate without a sample. -/
theorem isFirstFailure_of_error {e : SampleError}
    (h : f.sampleCandidates.mapM (f.rankedSample types tables) = .error e) :
    ∃ index offset, f.IsFirstFailure types tables index offset e := by
  have hsorted := f.pairwise_sampleCandidates
  obtain ⟨before, c, after, hsplit, he, hbefore⟩ := exists_of_mapM_error h
  rw [hsplit, List.pairwise_append, List.pairwise_cons] at hsorted
  have hc : c ∈ f.sampleCandidates := by simp [hsplit]
  refine ⟨c.1, c.2, mem_sampleCandidates.mp hc, rankedSample_eq_error.mp he, ?_⟩
  intro index offset hcandidate hlt
  -- what comes after the first failure does not come before it
  have hmem : (index, offset) ∈ f.sampleCandidates := mem_sampleCandidates.mpr hcandidate
  rw [hsplit, List.mem_append, List.mem_cons] at hmem
  rcases hmem with hmem | rfl | hmem
  · obtain ⟨r, hr⟩ := (hbefore _ hmem).exists_ok
    exact ⟨_, (rankOf_of_rankedSample hr).1⟩
  · exact absurd hlt (lt_irrefl _)
  · exact absurd hlt (hsorted.2.1.1 _ hmem).not_gt

variable (f types tables)

/-- The preferred sample is that of the first candidate with the least rank, if all candidates have
samples; else there is none, for the reason of the first candidate without one. -/
theorem preferredSample_cases :
    (∃ index offset text, f.IsPreferred types tables index offset text ∧
      f.preferredSample types tables = .ok ⟨text, index⟩) ∨
    ∃ index offset e, f.IsFirstFailure types tables index offset e ∧
      f.preferredSample types tables = .error e := by
  obtain ⟨hok, herror⟩ := f.preferredSample_eq types tables
  cases hall : f.sampleCandidates.mapM (f.rankedSample types tables) with
  | ok ranked =>
    left
    obtain ⟨first, others, rfl, index, offset, text, hpreferred, hbest⟩ :=
      isPreferred_of_ranked hall
    exact ⟨index, offset, text, hpreferred, by rw [hok first others hall, hbest]⟩
  | error e =>
    right
    obtain ⟨index, offset, hfailure⟩ := isFirstFailure_of_error hall
    exact ⟨index, offset, e, hfailure, herror e hall⟩

variable {f types}

/-- A signature has no sample if the name of the function cannot be encoded. -/
theorem sample_of_unencodable {tables : List Text}
    (hname : (f.qualifiedName tables).isEncodable = false) {index : Nat}
    (hindex : index < f.signatures.length) (offset : Nat) (verbose? : Option Bool) :
    f.sample types tables index offset verbose? =
      .error (.unencodableSeed (f.seedText tables index offset)) := by
  have hseed : (f.seedText tables index offset).isEncodable = false := by simp [seedText, hname]
  rw [sample, List.getElem?_eq_getElem hindex]
  simp only [Text.toUtf8?_eq_none hseed]

/-- Where everything is of its declared type, a function has a preferred sample exactly when its name
can be encoded and no candidate shows an integer with too many digits. -/
theorem preferredSample_hasResult_iff (htypes : ∀ e ∈ types, e.2.WellFormed Datum.IsText)
    (hf : f.WellFormed Datum.IsText) :
    HasResult (f.preferredSample types tables) ↔
      (f.qualifiedName tables).isEncodable = true ∧ f.ShowsWritable types := by
  by_cases hname : (f.qualifiedName tables).isEncodable = true
  · rw [preferredSample_hasResult htypes hf hname]
    exact (and_iff_right hname).symm
  · refine iff_of_false (fun h ↦ ?_) fun h ↦ hname h.1
    have hlength : 0 < f.signatures.length := List.length_pos_of_ne_nil hf.signatures_ne
    have hsample : f.sample types tables 0 0 none = .error _ :=
      sample_of_unencodable (by simpa using hname) hlength 0 none
    have hranked : f.rankedSample types tables (0, 0) = .error _ := rankedSample_eq_error.mpr hsample
    obtain ⟨s, hs⟩ := h.exists_ok
    rw [preferredSample, hranked] at hs
    cases hs

variable (f types)

/-- The preferred sample is the sample, as it is by default, of the first signature at offset 0 or of
a later one at an offset up to 4; of all these it has the fewest integer literals, then its signature
the most arguments, and it comes first among its equals. If one of them has no sample, the first such
failure is the outcome. A well-formed function has a preferred sample exactly when its name can be
encoded and no candidate shows an integer with too many digits as an argument. -/
theorem preferredSample_first_best :
    ((∃ index offset text, f.IsPreferred types tables index offset text ∧
        f.preferredSample types tables = .ok ⟨text, index⟩) ∨
      ∃ index offset e, f.IsFirstFailure types tables index offset e ∧
        f.preferredSample types tables = .error e) ∧
    ((∀ e ∈ types, e.2.WellFormed Datum.IsText) → f.WellFormed Datum.IsText →
      (HasResult (f.preferredSample types tables) ↔
        (f.qualifiedName tables).isEncodable = true ∧ f.ShowsWritable types)) :=
  ⟨preferredSample_cases f types tables, fun htypes hf ↦ preferredSample_hasResult_iff tables htypes hf⟩

/-- A function whose name is a lone surrogate. -/
def surrogate : Function where
  name := [.surrogate 0]
  desc := .text []
  link := none
  signatures := [.mk [] []]

/-- A lone surrogate in a name leaves a function without a sample. -/
theorem preferredSample_refuses_surrogate :
    ¬ ∀ (f : Function) (types : Assoc Text Alias) (tables : List Text),
      (∀ e ∈ types, e.2.WellFormed Datum.IsText) → f.WellFormed Datum.IsText →
      ∃ index offset text, f.IsPreferred types tables index offset text ∧
        f.preferredSample types tables = .ok ⟨text, index⟩ := by
  intro h
  have hf : surrogate.WellFormed Datum.IsText :=
    ⟨trivial, by simp [surrogate], by simp [surrogate, Signature.WellFormed, Variable.AllWellFormed],
      trivial, trivial⟩
  obtain ⟨index, offset, text, -, hok⟩ := h surrogate [] [] (List.forall_mem_nil _) hf
  have hrefused : surrogate.preferredSample [] [] =
      .error (.unencodableSeed (surrogate.seedText [] 0 0)) := rfl
  cases hrefused.symm.trans hok

end Function

end ScriptDefs
