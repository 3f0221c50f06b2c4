import ScriptDefs.Proofs.Number.LongestNumeral
import ScriptDefs.Proofs.Number.Overflow

/-!
# The floating-point number at the start of a text

After white space the longest beginning of a text that is a numeral is read as the number nearest to
what it denotes, whatever follows; there is no number where no beginning is a numeral, or where the
nearest number is infinite.
-/

namespace ScriptDefs

open Binary64

/-! ## What a numeral denotes -/

theorem Text.numberOf_append (ds fs : List Nat) :
    numberOf 10 (ds ++ fs) = numberOf 10 ds * 10 ^ fs.length + numberOf 10 fs := by
  rw [numberOf_eq_ofDigits, List.reverse_append, Nat.ofDigits_append, List.length_reverse,
    ← numberOf_eq_ofDigits, ← numberOf_eq_ofDigits, Nat.add_comm, Nat.mul_comm]

namespace Numeral

/-- What a numeral denotes, but for the sign. -/
def magnitude (x : Numeral) : ℚ :=
  (Text.numberOf 10 x.whole + Text.numberOf 10 x.fraction / 10 ^ x.fraction.length) *
    10 ^ x.exponent

/-- A finite number has the sign of a numeral and the magnitude nearest to what the numeral denotes,
of two equally near the one with the even rank. -/
def RoundsTo (x : Numeral) (v : Binary64) : Prop :=
  ∃ r : Fin (2047 * Nat.pow 2 52), Nearest r (x.magnitude * unitsInOne) ∧ v = .finite x.negative r

theorem magnitude_nonneg (x : Numeral) : 0 ≤ x.magnitude := by
  have hfraction : (0 : ℚ) ≤ Text.numberOf 10 x.fraction / 10 ^ x.fraction.length :=
    div_nonneg (Nat.cast_nonneg _) (pow_nonneg (by norm_num) _)
  exact mul_nonneg (add_nonneg (Nat.cast_nonneg _) hfraction) (zpow_nonneg (by norm_num) _)

/-- The digits of a numeral together are the coefficient of a decimal. -/
theorem magnitude_eq_value (x : Numeral) : x.magnitude =
    Decimal.value ⟨Text.numberOf 10 (x.whole ++ x.fraction), x.exponent - x.fraction.length⟩ := by
  have hpow : (10 : ℚ) ^ x.fraction.length ≠ 0 := pow_ne_zero _ (by norm_num)
  rw [Decimal.value, magnitude, Text.numberOf_append, zpow_sub₀ (by norm_num), zpow_natCast]
  push_cast
  field_simp

theorem toBinary64_eq_ofRank {x : Numeral} {r : Nat} (h : Nearest r (x.magnitude * unitsInOne)) :
    x.toBinary64 = ofRank x.negative r :=
  ofDecimal_eq_ofRank x.negative (x.magnitude_eq_value ▸ h)

/-- A numeral is read as infinite, or as the number to which it is rounded. -/
theorem toBinary64_cases (x : Numeral) :
    (overflow ≤ x.magnitude ∧ x.toBinary64 = .infinite x.negative) ∨
      (x.magnitude < overflow ∧ x.RoundsTo x.toBinary64) := by
  obtain ⟨r, hr⟩ := exists_nearest (mul_nonneg x.magnitude_nonneg (Nat.cast_nonneg unitsInOne))
  rw [toBinary64_eq_ofRank hr]
  by_cases hlt : r < 2047 * Nat.pow 2 52
  · refine .inr ⟨not_le.mp fun hle ↦ ?_, ⟨r, hlt⟩, hr, dif_pos hlt⟩
    exact absurd (hr.le_rank_iff.mpr hle) (Nat.not_le.mpr hlt)
  · exact .inl ⟨hr.le_rank_iff.mp (Nat.not_lt.mp hlt), dif_neg hlt⟩

theorem roundsTo_iff {x : Numeral} {v : Binary64} :
    x.RoundsTo v ↔ x.toBinary64 = v ∧ v.isFinite = true := by
  constructor
  · rintro ⟨r, hr, rfl⟩
    exact ⟨(toBinary64_eq_ofRank hr).trans (ofRank_of_lt x.negative r), rfl⟩
  · rintro ⟨rfl, hfinite⟩
    rcases x.toBinary64_cases with ⟨-, hinfinite⟩ | ⟨-, hrounds⟩
    · rw [hinfinite] at hfinite
      cases hfinite
    · exact hrounds

theorem overflow_le_iff {x : Numeral} : overflow ≤ x.magnitude ↔ x.toBinary64.isFinite = false := by
  rcases x.toBinary64_cases with ⟨hle, hinfinite⟩ | ⟨hlt, hrounds⟩
  · simp [hle, hinfinite, isFinite]
  · simp [hlt.not_ge, (roundsTo_iff.mp hrounds).2]

end Numeral

/-! ## What is read -/

namespace Text

variable {t p : Text} {x : Numeral}

theorem leadingFloat?_of_longest (h : LongestNumeral t.trimStart p x) :
    t.leadingFloat? = if x.toBinary64.isFinite then some x.toBinary64 else none := by
  rcases leadingNumeral?_longest t.trimStart with ⟨-, hnone⟩ | ⟨q, y, rest, hread, hq⟩
  · exact absurd h.spells (hnone p x h.starts)
  · obtain ⟨-, rfl⟩ := h.unique hq
    rw [leadingFloat?, hread]
    rfl

theorem leadingFloat?_of_none (h : ∀ p x, p <+: t.trimStart → ¬ Numeral.Spells x p) :
    t.leadingFloat? = none := by
  rcases leadingNumeral?_longest t.trimStart with ⟨hread, -⟩ | ⟨q, y, -, -, hq⟩
  · rw [leadingFloat?, hread]
    rfl
  · exact absurd hq.spells (h q y hq.starts)

/-- What a text starts with after white space has no white space in front. -/
theorem trimStart_of_starts (hp : p <+: t.trimStart) : p.trimStart = p := by
  cases p with
  | nil => rfl
  | cons c p =>
    obtain ⟨rest, hrest⟩ := hp
    have hhead := List.head?_dropWhile_not CodePoint.isBlank t
    rw [← trimStart, ← hrest] at hhead
    exact List.dropWhile_cons_of_neg (Bool.eq_false_iff.mp hhead)

theorem leadingFloat?_eq_some_iff {v : Binary64} :
    t.leadingFloat? = some v ↔ ∃ p x, LongestNumeral t.trimStart p x ∧ x.RoundsTo v := by
  constructor
  · intro hread
    rcases leadingNumeral?_longest t.trimStart with ⟨-, hnone⟩ | ⟨p, x, -, -, hp⟩
    · rw [leadingFloat?_of_none hnone] at hread
      cases hread
    · rw [leadingFloat?_of_longest hp, Option.ite_none_right_eq_some, Option.some.injEq] at hread
      exact ⟨p, x, hp, Numeral.roundsTo_iff.mpr ⟨hread.2, hread.2 ▸ hread.1⟩⟩
  · rintro ⟨p, x, hp, hrounds⟩
    obtain ⟨rfl, hfinite⟩ := Numeral.roundsTo_iff.mp hrounds
    rw [leadingFloat?_of_longest hp, if_pos hfinite]

theorem leadingFloat?_eq_none_iff :
    t.leadingFloat? = none ↔ (∀ p x, p <+: t.trimStart → ¬ Numeral.Spells x p) ∨
      ∃ p x, LongestNumeral t.trimStart p x ∧ overflow ≤ x.magnitude := by
  constructor
  · intro hread
    rcases leadingNumeral?_longest t.trimStart with ⟨-, hnone⟩ | ⟨p, x, -, -, hp⟩
    · exact .inl hnone
    · rw [leadingFloat?_of_longest hp, ite_eq_right_iff] at hread
      refine .inr ⟨p, x, hp, Numeral.overflow_le_iff.mpr ?_⟩
      exact Bool.eq_false_iff.mpr fun hfinite ↦ nomatch hread hfinite
  · rintro (hnone | ⟨p, x, hp, hle⟩)
    · exact leadingFloat?_of_none hnone
    · rw [leadingFloat?_of_longest hp, Numeral.overflow_le_iff.mp hle]
      rfl

/-- What follows the longest numeral does not matter. -/
theorem leadingFloat?_alone (h : LongestNumeral t.trimStart p x) :
    p.leadingFloat? = t.leadingFloat? := by
  have hself : LongestNumeral p.trimStart p x := by
    rw [trimStart_of_starts h.starts]
    exact ⟨List.prefix_rfl, h.spells, fun _ _ hq _ ↦ hq.length_le⟩
  rw [leadingFloat?_of_longest hself, leadingFloat?_of_longest h]

/-- After white space the longest beginning of a text that is a numeral is read as the finite number
to which it is rounded. Nothing is read just where no beginning is a numeral, or where the longest one
denotes too much for a finite number. The longest one is read as it is by itself, and does not end
within an exponent, in a sign or in a point without digits. -/
theorem leadingFloat?_longest (t : Text) :
    (∀ v, t.leadingFloat? = some v ↔ ∃ p x, LongestNumeral t.trimStart p x ∧ x.RoundsTo v) ∧
      (t.leadingFloat? = none ↔ (∀ p x, p <+: t.trimStart → ¬ Numeral.Spells x p) ∨
        ∃ p x, LongestNumeral t.trimStart p x ∧ overflow ≤ x.magnitude) ∧
      ∀ p x, LongestNumeral t.trimStart p x →
        p.leadingFloat? = t.leadingFloat? ∧ p.EndsInDigit ∧
          ∀ y q, LongestNumeral t.trimStart q y → q = p ∧ y = x :=
  ⟨fun _ ↦ leadingFloat?_eq_some_iff, leadingFloat?_eq_none_iff, fun _ _ h ↦
    ⟨leadingFloat?_alone h, endsInDigit_of_spells h.spells, fun _ _ hq ↦ hq.unique h⟩⟩

end Text

end ScriptDefs
