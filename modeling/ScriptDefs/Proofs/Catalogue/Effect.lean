import Mathlib.Data.Nat.Find
import ScriptDefs.Catalogue.Effect

/-!
# Side effects by name

A table of side effects is followed wherever it has a name. For all other names the rule is: a name tells
of side effects if it is not known to have none, and a keyword occurs in it after the start or it is known
to have some. Of each keyword only the first occurrence is looked at, so that one at the start hides those
after it; nowhere else does the guess differ from the rule.
-/

namespace ScriptDefs

namespace Text

/-! ## Occurrences -/

/-- A text occurs in another at a position. -/
def OccursAt (part t : Text) (i : Nat) : Prop := part <+: t.drop i

theorem occursAt_cons_succ {part : Text} {c : CodePoint} {t : Text} {i : Nat} :
    OccursAt part (c :: t) (i + 1) ↔ OccursAt part t i := Iff.rfl

instance (part t : Text) (i : Nat) : Decidable (OccursAt part t i) :=
  inferInstanceAs (Decidable (part <+: t.drop i))

/-- A text is found where it first occurs. -/
theorem firstIndex?_eq_some_iff {part t : Text} {n : Nat} :
    firstIndex? part t = some n ↔ OccursAt part t n ∧ ∀ i < n, ¬ OccursAt part t i := by
  -- for every position: one step into the text, all positions are one less
  induction t generalizing n with
  | nil =>
    rw [firstIndex?]
    simp only [OccursAt, List.drop_nil, List.prefix_nil, List.isEmpty_iff]
    by_cases h : part = []
    · simp only [h, ↓reduceIte, Option.some.injEq, true_and, not_true_eq_false, imp_false]
      constructor
      · rintro rfl
        omega
      · intro hlt
        have := hlt 0
        omega
    · simp [h]
  | cons c t ih =>
    rw [firstIndex?]
    by_cases h : part.isPrefixOf (c :: t)
    · have hstart : OccursAt part (c :: t) 0 := List.isPrefixOf_iff_prefix.mp h
      rw [if_pos h, Option.some.injEq]
      constructor
      · rintro rfl
        exact ⟨hstart, by omega⟩
      · rintro ⟨-, hfirst⟩
        by_contra hne
        exact hfirst 0 (by omega) hstart
    · have hstart : ¬ OccursAt part (c :: t) 0 := fun hocc ↦ h (List.isPrefixOf_iff_prefix.mpr hocc)
      rw [if_neg h, Option.map_eq_some_iff]
      constructor
      · rintro ⟨m, hm, rfl⟩
        obtain ⟨hocc, hfirst⟩ := ih.mp hm
        refine ⟨occursAt_cons_succ.mpr hocc, fun i hi ↦ ?_⟩
        cases i with
        | zero => exact hstart
        | succ i => exact fun hocc ↦ hfirst i (by omega) (occursAt_cons_succ.mp hocc)
      · rintro ⟨hocc, hfirst⟩
        cases n with
        | zero => exact absurd hocc hstart
        | succ n =>
          refine ⟨n, ih.mpr ⟨occursAt_cons_succ.mp hocc, fun i hi hocc ↦ ?_⟩, rfl⟩
          exact hfirst (i + 1) (by omega) (occursAt_cons_succ.mpr hocc)

/-- A text that occurs in another is found. -/
theorem exists_firstIndex? {part t : Text} (h : ∃ i, OccursAt part t i) :
    ∃ n, firstIndex? part t = some n :=
  ⟨Nat.find h, firstIndex?_eq_some_iff.mpr ⟨Nat.find_spec h, fun _ ↦ Nat.find_min h⟩⟩

end Text

namespace Catalogue

open Text (OccursAt)

/-! ## Keywords -/

/-- A keyword occurs in a name after the start. -/
def OccursLater (name keyword : Text) : Prop := ∃ i, 0 < i ∧ OccursAt keyword name i

/-- A keyword is noticed that occurs after the start of a name and not at the start. -/
theorem hasKeyword_iff {name keyword : Text} :
    hasKeyword name keyword = true ↔
      OccursLater name keyword ∧ ¬ OccursAt keyword name 0 := by
  rw [hasKeyword]
  constructor
  · intro h
    split at h
    · next n hfirst =>
      obtain ⟨hocc, hearlier⟩ := Text.firstIndex?_eq_some_iff.mp hfirst
      exact ⟨⟨n + 1, by omega, hocc⟩, hearlier 0 (by omega)⟩
    · cases h
  · rintro ⟨⟨i, -, hocc⟩, hstart⟩
    obtain ⟨n, hn⟩ := Text.exists_firstIndex? ⟨i, hocc⟩
    cases n with
    | zero => exact absurd (Text.firstIndex?_eq_some_iff.mp hn).1 hstart
    | succ n => rw [hn]

/-! ## The rule -/

/-- The rule for names that no table has. -/
def TellsOfEffects (name : Text) : Prop :=
  name ∉ knownEffectless ∧ ((∃ k ∈ effectKeywords, OccursLater name k) ∨ name ∈ knownEffects)

/-- A keyword stands at the start of a name and occurs again later. -/
def RepeatsStart (name : Text) : Prop :=
  ∃ k ∈ effectKeywords, OccursAt k name 0 ∧ OccursLater name k

theorem seemsEffectful_iff {name : Text} :
    seemsEffectful name = true ↔ name ∉ knownEffectless ∧
      ((∃ k ∈ effectKeywords, OccursLater name k ∧ ¬ OccursAt k name 0) ∨
        name ∈ knownEffects) := by
  simp [seemsEffectful, hasKeyword_iff]

/-- The guess follows the rule, but for names that repeat their start. -/
theorem seemsEffectful_iff_tells {name : Text} (h : ¬ RepeatsStart name) :
    seemsEffectful name = true ↔ TellsOfEffects name := by
  have hkeyword : (∃ k ∈ effectKeywords, OccursLater name k ∧ ¬ OccursAt k name 0) ↔
      ∃ k ∈ effectKeywords, OccursLater name k := by
    constructor
    · rintro ⟨k, hk, hlater, -⟩
      exact ⟨k, hk, hlater⟩
    · rintro ⟨k, hk, hlater⟩
      exact ⟨k, hk, hlater, fun hstart ↦ h ⟨k, hk, hstart, hlater⟩⟩
  rw [seemsEffectful_iff, TellsOfEffects, hkeyword]

/-- A table that has a name is followed. Any other name counts as having side effects exactly if it is
not known to have none, and a keyword occurs in it after the start and not at the start, or it is known to
have some. This is the rule, but for names with a keyword at the start that occurs again later. -/
theorem effectOf_rule (table : EffectTable) (name : Text) :
    (∀ entry, table.lookup name = some entry → effectOf table name = entry) ∧
    (table.lookup name = none → ∃ effectful : Bool, effectOf table name = .bool effectful ∧
      (effectful = true ↔ name ∉ knownEffectless ∧
        ((∃ k ∈ effectKeywords, OccursLater name k ∧ ¬ OccursAt k name 0) ∨
          name ∈ knownEffects)) ∧
      ((effectful = true ↔ TellsOfEffects name) ∨ RepeatsStart name)) := by
  constructor
  · intro entry h
    rw [effectOf, h]
    rfl
  · intro h
    refine ⟨seemsEffectful name, ?_, seemsEffectful_iff, ?_⟩
    · rw [effectOf, h]
      rfl
    · by_cases hrepeats : RepeatsStart name
      · exact .inr hrepeats
      · exact .inl (seemsEffectful_iff_tells hrepeats)

/-- A keyword that stands at the start hides itself later: the rule is not followed. -/
theorem effectOf_misses_repeated_keyword :
    ¬ ∀ (table : EffectTable) (name : Text), table.lookup name = none →
      ∃ effectful : Bool, effectOf table name = .bool effectful ∧
        (effectful = true ↔ TellsOfEffects name) := by
  intro h
  obtain ⟨effectful, heffect, hrule⟩ := h [] "SetSet" rfl
  have htells : TellsOfEffects "SetSet" :=
    ⟨by decide, .inl ⟨"Set", by decide, 3, by decide, by decide⟩⟩
  have hguess : seemsEffectful "SetSet" = false := by decide
  have hbool : (.bool (seemsEffectful "SetSet") : Datum) = .bool effectful := heffect
  cases hbool
  rw [hguess] at hrule
  exact absurd (hrule.mpr htells) Bool.false_ne_true

example : seemsEffectful "llSetText" = true := by decide

end Catalogue

end ScriptDefs
