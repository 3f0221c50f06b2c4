import Mathlib.Algebra.Order.Field.Basic
import Mathlib.Data.Rat.Cast.Order
import Mathlib.Tactic.Linarith
import Mathlib.Tactic.Ring
import ScriptDefs.Number.Shortest

/-!
# Rounding decimals

A decimal between the midpoints to the neighbours of a finite magnitude is read as the number with
that magnitude, whatever its coefficient and its exponent are: the rank found by way of the
logarithm is the right one, also at a power of two where the neighbours are not equally far away,
and the exponents that are decided in advance are those of other numbers.
-/

namespace ScriptDefs

namespace Binary64

-- the powers as literals, for linear arithmetic
theorem pow_52 : Nat.pow 2 52 = 4503599627370496 := rfl

theorem pow_53 : Nat.pow 2 53 = 9007199254740992 := rfl

theorem pow_two_pos (k : Nat) : 0 < Nat.pow 2 k := Nat.pow_pos (by decide)

/-! ## Magnitudes -/

/-- Each run of 2⁵² ranks covers the magnitudes from one power of two to the next, both included. -/
theorem units_add (k : Nat) {m : Nat} (h : m ≤ Nat.pow 2 52) :
    units ((k + 1) * Nat.pow 2 52 + m) = (Nat.pow 2 52 + m) * Nat.pow 2 k := by
  rw [pow_52] at *
  unfold units
  rw [pow_52, if_neg (by omega)]
  rcases Nat.lt_or_eq_of_le h with h | rfl
  · have hdiv : ((k + 1) * 4503599627370496 + m) / 4503599627370496 = k + 1 := by omega
    have hmod : ((k + 1) * 4503599627370496 + m) % 4503599627370496 = m := by omega
    rw [hdiv, hmod, Nat.add_sub_cancel]
  · have hdiv : ((k + 1) * 4503599627370496 + 4503599627370496) / 4503599627370496 = k + 1 + 1 := by
      omega
    have hmod : ((k + 1) * 4503599627370496 + 4503599627370496) % 4503599627370496 = 0 := by
      omega
    have hpow : Nat.pow 2 (k + 1) = 2 * Nat.pow 2 k := Nat.pow_succ'
    rw [hdiv, hmod, Nat.add_sub_cancel, hpow]
    omega

theorem units_add_mul (k d : Nat) {m : Nat} (h : m ≤ Nat.pow 2 52) :
    units ((k + 1) * Nat.pow 2 52 + m) * d =
      Nat.pow 2 52 * (d * Nat.pow 2 k) + m * (d * Nat.pow 2 k) := by
  rw [units_add k h, Nat.mul_comm d, Nat.mul_assoc, Nat.add_mul]

/-- Up to 2⁵³ the ranks are their own magnitudes. -/
theorem units_eq {r : Nat} (h : r ≤ 2 * Nat.pow 2 52) : units r = r := by
  rcases Nat.lt_or_ge r (Nat.pow 2 52) with hr | hr
  · exact if_pos hr
  · obtain ⟨m, rfl⟩ := Nat.exists_eq_add_of_le hr
    have hm := units_add 0 (m := m) (by omega)
    rw [Nat.zero_add, Nat.one_mul] at hm
    exact hm.trans (Nat.mul_one _)

/-- A rank from 2⁵³ on is one of the 2⁵² ranks between two powers of two. -/
theorem exists_binade {r : Nat} (h : 2 * Nat.pow 2 52 ≤ r) :
    ∃ k m, m < Nat.pow 2 52 ∧ r = (k + 1 + 1) * Nat.pow 2 52 + m := by
  rw [pow_52] at *
  exact ⟨r / 4503599627370496 - 2, r % 4503599627370496, by omega, by omega⟩

/-- The rank before a power of two is the last one of the run below. -/
theorem pred_binade (k : Nat) :
    (k + 1 + 1) * Nat.pow 2 52 - 1 = (k + 1) * Nat.pow 2 52 + (Nat.pow 2 52 - 1) := by
  rw [pow_52]
  omega

theorem units_pos {r : Nat} (h : 0 < r) : 0 < units r := by
  unfold units
  split
  · exact h
  · exact Nat.mul_pos (Nat.add_pos_left (pow_two_pos 52) _) (pow_two_pos _)

theorem units_le_pow (k : Nat) {r : Nat} (h : r ≤ (k + 2) * Nat.pow 2 52) :
    units r ≤ 2 * Nat.pow 2 52 * Nat.pow 2 k := by
  rcases Nat.lt_or_ge (2 * Nat.pow 2 52) r with hr | hr
  · obtain ⟨j, m, hm, hj, rfl⟩ :
        ∃ j m, m ≤ Nat.pow 2 52 ∧ j ≤ k ∧ r = (j + 1) * Nat.pow 2 52 + m := by
      rw [pow_52] at *
      refine ⟨(r - 1) / 4503599627370496 - 1, (r - 1) % 4503599627370496 + 1, ?_, ?_, ?_⟩ <;> omega
    rw [units_add j hm, Nat.two_mul]
    exact Nat.mul_le_mul (Nat.add_le_add_left hm _) (Nat.pow_le_pow_right (by decide) hj)
  · rw [units_eq hr]
    exact hr.trans (Nat.le_mul_of_pos_right _ (pow_two_pos k))

/-- Neighbouring magnitudes are at least so far apart that 2⁵³ such steps lead from zero to the
magnitude. -/
theorem exists_gap {r : Nat} (hr : 0 < r) : ∃ gap, 0 < gap ∧ units (r - 1) + gap = units r ∧
    units r + gap ≤ units (r + 1) ∧ units r ≤ 2 * Nat.pow 2 52 * gap := by
  rcases Nat.lt_or_ge r (2 * Nat.pow 2 52) with hlt | hge
  · refine ⟨1, Nat.one_pos, ?_⟩
    rw [units_eq (by omega), units_eq (by omega), units_eq (by omega)]
    omega
  obtain ⟨k, m, hm, rfl⟩ := exists_binade hge
  have hself := units_add (k + 1) (Nat.le_of_lt hm)
  have hnext := units_add (k + 1) (m := m + 1) hm
  rw [← Nat.add_assoc] at hnext
  rw [hself, hnext]
  rcases Nat.eq_zero_or_pos m with rfl | hmpos
  · have hprev := units_add k (m := Nat.pow 2 52 - 1) (Nat.sub_le _ _)
    have hdouble : Nat.pow 2 (k + 1) = 2 * Nat.pow 2 k := Nat.pow_succ'
    refine ⟨Nat.pow 2 k, pow_two_pos k, ?_⟩
    rw [Nat.add_zero, pred_binade, hprev, hdouble, pow_52]
    omega
  · have hprev := units_add (k + 1) (m := m - 1) (by omega)
    rw [Nat.add_sub_assoc hmpos, hprev]
    refine ⟨Nat.pow 2 (k + 1), pow_two_pos (k + 1), ?_, ?_, ?_⟩
    · rw [← Nat.succ_mul]
      congr 1
      omega
    · rw [← Nat.succ_mul, Nat.succ_eq_add_one, Nat.add_assoc]
    · exact Nat.mul_le_mul_right _ (by omega)

/-! ## Ranks of quotients -/

/-- A quotient is rounded to a natural number at most one half away; a half goes to the even one. -/
theorem roundedQuotient_eq {n d q : Nat} (hd : 0 < d) (hlow : 2 * (q * d) ≤ 2 * n + d)
    (hhigh : 2 * n ≤ 2 * (q * d) + d)
    (hodd : q % 2 = 1 → 2 * (q * d) < 2 * n + d ∧ 2 * n < 2 * (q * d) + d) :
    roundedQuotient n d = q := by
  have hn : d * (n / d) + n % d = n := Nat.div_add_mod n d
  have hmod : n % d < d := Nat.mod_lt n hd
  have hle : n / d ≤ q := by
    by_contra hlt
    have hmul : (q + 1) * d ≤ d * (n / d) := by
      rw [Nat.mul_comm d]
      exact Nat.mul_le_mul_right d (by omega)
    rw [Nat.add_mul] at hmul
    omega
  have hge : q ≤ n / d + 1 := by
    by_contra hlt
    have hmul : (n / d + 1 + 1) * d ≤ q * d := Nat.mul_le_mul_right d (by omega)
    rw [Nat.add_mul, Nat.add_mul, Nat.mul_comm _ d] at hmul
    omega
  unfold roundedQuotient
  rcases Nat.lt_or_eq_of_le hle with hlt | heq
  · have hq : q = n / d + 1 := by omega
    have hmul : q * d = d * (n / d) + d := by
      rw [hq, Nat.add_mul, Nat.mul_comm _ d, Nat.one_mul]
    rw [if_pos (by omega)]
    exact hq.symm
  · have hmul : q * d = d * (n / d) := by rw [heq, Nat.mul_comm]
    rw [if_neg (by omega)]
    exact heq

theorem roundedQuotient_or (n d : Nat) :
    roundedQuotient n d = n / d ∨ roundedQuotient n d = n / d + 1 := by
  unfold roundedQuotient
  split
  · exact .inr rfl
  · exact .inl rfl

/-- The shift is the one that leaves a quotient of 53 binary digits, or less if there is none. -/
theorem nearestRank_eq {n d s : Nat} (hd : 0 < d) (hhigh : n < Nat.pow 2 53 * (d * Nat.pow 2 s))
    (hlow : s = 0 ∨ Nat.pow 2 52 * (d * Nat.pow 2 s) ≤ n) :
    nearestRank n d = s * Nat.pow 2 52 + roundedQuotient n (d * Nat.pow 2 s) := by
  have hpow (k : Nat) : 2 ^ (k + s) * d = Nat.pow 2 k * (d * Nat.pow 2 s) := by
    rw [Nat.pow_add, Nat.mul_comm d, ← Nat.mul_assoc]
    rfl
  have hlog : (n / d).log2 - 52 = s := by
    have hlt : n / d < 2 ^ (53 + s) := by rwa [Nat.div_lt_iff_lt_mul hd, hpow]
    have hle : s ≠ 0 → 2 ^ (52 + s) ≤ n / d := fun hs ↦ by
      rw [Nat.le_div_iff_mul_le hd, hpow]
      exact hlow.resolve_left hs
    by_cases hz : n / d = 0
    · have hs : s = 0 := by
        by_contra hs
        have hpos : 0 < 2 ^ (52 + s) := Nat.pow_pos (by decide)
        have := hle hs
        omega
      rw [hz, hs]
      rfl
    · have hupper := (Nat.log2_lt hz).mpr hlt
      have hlower : s ≠ 0 → 52 + s ≤ (n / d).log2 := fun hs ↦ (Nat.le_log2 hz).mpr (hle hs)
      omega
  unfold nearestRank
  rw [hlog]

/-- A number of units lies between the midpoints to the neighbours of a magnitude; the midpoints
count for an even rank. -/
@[mk_iff]
structure Nearest (r : Nat) (u : ℚ) : Prop where
  low : units (r - 1) + units r ≤ 2 * u
  high : 2 * u ≤ units r + units (r + 1)
  odd : r % 2 = 1 → units (r - 1) + units r < 2 * u ∧ 2 * u < units r + units (r + 1)

theorem Nearest.of_lt {r : Nat} {u : ℚ} (hlow : units (r - 1) + units r < 2 * u)
    (hhigh : 2 * u < units r + units (r + 1)) : Nearest r u :=
  ⟨hlow.le, hhigh.le, fun _ ↦ ⟨hlow, hhigh⟩⟩

/-- What rounds to a positive magnitude is positive. -/
theorem Nearest.pos {r : Nat} {u : ℚ} (hr : 0 < r) (h : Nearest r u) : 0 < u := by
  have hunits : (0 : ℚ) < units r := Nat.cast_pos.mpr (units_pos hr)
  have hprev : (0 : ℚ) ≤ units (r - 1) := Nat.cast_nonneg _
  linarith [h.low]

/-- The midpoints of a quotient, without division. -/
theorem nearest_div_iff {r n d : Nat} (hd : 0 < d) : Nearest r (n / d) ↔
    units (r - 1) * d + units r * d ≤ 2 * n ∧ 2 * n ≤ units r * d + units (r + 1) * d ∧
      (r % 2 = 1 → units (r - 1) * d + units r * d < 2 * n ∧
        2 * n < units r * d + units (r + 1) * d) := by
  have hd' : (0 : ℚ) < d := Nat.cast_pos.mpr hd
  have heq : 2 * ((n : ℚ) / d) = 2 * n / d := (mul_div_assoc _ _ _).symm
  have hle (a b : Nat) : (a + b : ℚ) ≤ 2 * (n / d) ↔ a * d + b * d ≤ 2 * n := by
    rw [heq, le_div_iff₀ hd', add_mul]
    exact_mod_cast Iff.rfl
  have hge (a b : Nat) : 2 * (n / d) ≤ (a + b : ℚ) ↔ 2 * n ≤ a * d + b * d := by
    rw [heq, div_le_iff₀ hd', add_mul]
    exact_mod_cast Iff.rfl
  rw [nearest_iff, hle, hge, ← not_le, ← not_le, hle, hge, Nat.not_le, Nat.not_le]

section Rank

variable {n d : Nat} (hd : 0 < d)
include hd

/-- Magnitudes below 2⁵³ units are one unit apart. -/
theorem nearestRank_low {r : Nat} (hr : 0 < r) (hlt : r < 2 * Nat.pow 2 52)
    (h : Nearest r (n / d)) : nearestRank n d = r := by
  obtain ⟨hlow, hhigh, hodd⟩ := (nearest_div_iff hd).mp h
  rw [units_eq (by omega), units_eq (by omega)] at hlow hhigh hodd
  rw [units_eq (by omega)] at hodd
  have hone : d * Nat.pow 2 0 = d := Nat.mul_one d
  have hprev : (r - 1) * d + d = r * d := by
    rw [← Nat.succ_mul, Nat.succ_eq_add_one, Nat.sub_add_cancel hr]
  have hnext : (r + 1) * d = r * d + d := Nat.succ_mul r d
  have hbound : (r + 1) * d ≤ 2 * Nat.pow 2 52 * d := Nat.mul_le_mul_right d hlt
  rw [Nat.mul_assoc, pow_52] at hbound
  rw [nearestRank_eq (s := 0) hd _ (.inl rfl), hone, Nat.zero_mul, Nat.zero_add]
  · exact roundedQuotient_eq hd (by omega) (by omega) fun h ↦ by have := hodd h; omega
  · rw [hone, pow_53]
    omega

/-- Between two powers of two all magnitudes are equally far apart. -/
theorem nearestRank_between {k m : Nat} (hm : m + 1 < Nat.pow 2 52)
    (h : Nearest ((k + 1 + 1) * Nat.pow 2 52 + (m + 1)) (n / d)) :
    nearestRank n d = (k + 1 + 1) * Nat.pow 2 52 + (m + 1) := by
  obtain ⟨hlow, hhigh, hodd⟩ := (nearest_div_iff hd).mp h
  have hpred : (k + 1 + 1) * Nat.pow 2 52 + (m + 1) - 1 = (k + 1 + 1) * Nat.pow 2 52 + m := by
    rw [← Nat.add_assoc, Nat.add_sub_cancel]
  have hprev := units_add_mul (k + 1) d (m := m) (by omega)
  have hself := units_add_mul (k + 1) d (m := m + 1) (by omega)
  have hnext := units_add_mul (k + 1) d (m := m + 1 + 1) hm
  rw [← Nat.add_assoc] at hnext
  rw [hpred, hprev, hself] at hlow hodd
  rw [hself, hnext] at hhigh
  rw [hnext] at hodd
  have hbound : (m + 1 + 1) * (d * Nat.pow 2 (k + 1)) ≤ Nat.pow 2 52 * (d * Nat.pow 2 (k + 1)) :=
    Nat.mul_le_mul_right _ hm
  have hpos : 0 < d * Nat.pow 2 (k + 1) := Nat.mul_pos hd (pow_two_pos _)
  rw [nearestRank_eq (s := k + 1) hd, roundedQuotient_eq (q := Nat.pow 2 52 + (m + 1)) hpos]
  all_goals
    generalize d * Nat.pow 2 (k + 1) = e at *
    simp only [Nat.add_mul, Nat.one_mul, pow_52, pow_53] at *
    omega

/-- Below a power of two the neighbour is only half as far away as above it; what lies below is
rounded among the magnitudes there. -/
theorem nearestRank_boundary {k : Nat} (h : Nearest ((k + 1 + 1) * Nat.pow 2 52) (n / d)) :
    nearestRank n d = (k + 1 + 1) * Nat.pow 2 52 := by
  obtain ⟨hlow, hhigh, -⟩ := (nearest_div_iff hd).mp h
  have hprev := units_add_mul k d (m := Nat.pow 2 52 - 1) (Nat.sub_le _ _)
  have hself := units_add_mul (k + 1) d (m := 0) (Nat.zero_le _)
  have hnext := units_add_mul (k + 1) d (m := 1) (pow_two_pos 52)
  rw [Nat.add_zero, Nat.zero_mul, Nat.add_zero] at hself
  rw [pred_binade, hprev, hself] at hlow
  rw [hself, hnext] at hhigh
  have hpos : 0 < d * Nat.pow 2 k := Nat.mul_pos hd (pow_two_pos k)
  have hdouble : d * Nat.pow 2 (k + 1) = 2 * (d * Nat.pow 2 k) := by
    rw [Nat.mul_left_comm]
    exact congrArg (d * ·) Nat.pow_succ'
  rw [hdouble] at hlow hhigh
  rcases Nat.lt_or_ge n (Nat.pow 2 53 * (d * Nat.pow 2 k)) with hn | hn
  · rw [nearestRank_eq (s := k) hd hn, roundedQuotient_eq (q := 2 * Nat.pow 2 52) hpos]
    all_goals
      generalize d * Nat.pow 2 k = e at *
      simp only [pow_52, pow_53] at *
      omega
  · rw [nearestRank_eq (s := k + 1) hd, roundedQuotient_eq (q := Nat.pow 2 52),
      Nat.succ_mul (k + 1)]
    all_goals
      rw [hdouble]
      generalize d * Nat.pow 2 k = e at *
      simp only [pow_52, pow_53] at *
      omega

/-- A quotient between the midpoints of a magnitude is rounded to it. -/
theorem nearestRank_of_nearest {r : Nat} (hr : 0 < r) (h : Nearest r (n / d)) :
    nearestRank n d = r := by
  rcases Nat.lt_or_ge r (2 * Nat.pow 2 52) with hlt | hge
  · exact nearestRank_low hd hr hlt h
  obtain ⟨k, m, hm, rfl⟩ := exists_binade hge
  cases m with
  | zero =>
    rw [Nat.add_zero] at *
    exact nearestRank_boundary hd h
  | succ m => exact nearestRank_between hd hm h

end Rank

/-- The number of units in one. -/
def unitsInOne : Nat := Nat.pow 2 1074

theorem unitsInOne_pos : 0 < unitsInOne := by
  decide +kernel

theorem pow_1075 : Nat.pow 2 1075 = unitsInOne * 2 := by
  decide +kernel

/-- All finite magnitudes, and the one that would come next, have fewer than 310 decimal digits. -/
theorem exists_units_le :
    ∃ n : Nat, n < 10 ^ 310 ∧ ∀ r ≤ 2047 * Nat.pow 2 52, units r ≤ n * unitsInOne := by
  obtain ⟨k, n, hk, hn, heq⟩ : ∃ k n, 2047 = k + 2 ∧ n < 10 ^ 310 ∧
      2 * Nat.pow 2 52 * Nat.pow 2 k = n * unitsInOne :=
    ⟨2045, Nat.pow 2 1024, rfl, by decide +kernel, by decide +kernel⟩
  refine ⟨n, hn, fun r hr ↦ ?_⟩
  rw [hk] at hr
  rw [← heq]
  exact units_le_pow k hr

/-- No decimal below the 330th place is as large as half a unit. -/
theorem two_mul_unitsInOne_lt : 2 * unitsInOne < 10 ^ 331 := by
  decide +kernel

theorem ofQuotient_eq_ofRank (negative : Bool) (n d : Nat) :
    ofQuotient negative n d = ofRank negative (nearestRank (n * unitsInOne) d) := by
  unfold ofQuotient unitsInOne
  with_reducible rfl

theorem ofRank_of_lt (negative : Bool) (rank : Fin (2047 * Nat.pow 2 52)) :
    ofRank negative rank = .finite negative rank := dif_pos rank.isLt

end Binary64

/-! ## Decimals -/

namespace Decimal

/-- The number that a decimal is. -/
def value (x : Decimal) : ℚ := x.coefficient * 10 ^ x.exponent

theorem toQuotient_pos (x : Decimal) : 0 < x.toQuotient.2 := by
  unfold toQuotient
  split
  · exact Nat.one_pos
  · exact Nat.pow_pos (by decide)

/-- The quotient of a decimal is its value. -/
theorem toQuotient_div (x : Decimal) : (x.toQuotient.1 : ℚ) / x.toQuotient.2 = x.value := by
  obtain ⟨c, e⟩ := x
  unfold toQuotient value
  split
  · next h =>
    obtain ⟨n, rfl⟩ := Int.eq_ofNat_of_zero_le h
    simp
  · next h =>
    obtain ⟨n, hn⟩ := Int.eq_ofNat_of_zero_le (Int.neg_nonneg.mpr (Int.not_le.mp h).le)
    obtain rfl : e = -n := by rw [← hn, Int.neg_neg]
    simp [div_eq_mul_inv]

/-- The value of a decimal in units. -/
theorem value_mul_units (x : Decimal) : x.value * Binary64.unitsInOne =
    ((x.toQuotient.1 * Binary64.unitsInOne : Nat) : ℚ) / x.toQuotient.2 := by
  rw [← x.toQuotient_div, Nat.cast_mul]
  ring

end Decimal

namespace Binary64

/-- A decimal rounds to a magnitude if it lies between the midpoints. -/
theorem roundsTo_iff {rank : Nat} (x : Decimal) :
    roundsTo rank x.toQuotient = true ↔ Nearest rank (x.value * unitsInOne) := by
  rw [x.value_mul_units, nearest_div_iff x.toQuotient_pos]
  unfold roundsTo
  rw [pow_1075, ← Nat.mul_assoc, Nat.mul_comm _ 2]
  simp only [Nat.add_mul]
  generalize x.toQuotient.1 * unitsInOne = n
  split
  · next h =>
    simp only [Bool.and_eq_true, decide_eq_true_iff, h, Nat.zero_ne_one, false_imp_iff, and_true]
  · next h =>
    simp only [Bool.and_eq_true, decide_eq_true_iff, show rank % 2 = 1 by omega, true_imp_iff]
    omega

theorem decimalLength_pos (n : Nat) : 0 < decimalLength n :=
  List.length_pos_iff.mpr Nat.toDigits_ne_nil

theorem lt_pow_decimalLength (n : Nat) : n < 10 ^ decimalLength n :=
  (Nat.length_toDigits_le_iff (by decide) (decimalLength_pos n)).mp (Nat.le_refl _)

theorem pow_decimalLength_le {n : Nat} (h : 0 < n) : 10 ^ (decimalLength n - 1) ≤ n := by
  by_contra hlt
  rcases Nat.eq_zero_or_pos (decimalLength n - 1) with hz | hpos
  · rw [hz] at hlt
    omega
  · have hle := (Nat.length_toDigits_le_iff (by decide) hpos).mpr (Nat.lt_of_not_le hlt)
    have hlength : (Nat.toDigits 10 n).length = decimalLength n := rfl
    omega

/-- A decimal is at least the power of ten at its leading digit, and less than the next. -/
theorem value_bounds {c : Nat} (hc : 0 < c) (e : Int) :
    (10 : ℚ) ^ (decimalLength c + e - 1) ≤ Decimal.value ⟨c, e⟩ ∧
      Decimal.value ⟨c, e⟩ < (10 : ℚ) ^ (decimalLength c + e) := by
  have hten : (0 : ℚ) < 10 := by norm_num
  have he := zpow_pos hten e
  have hlength := decimalLength_pos c
  constructor
  · have hpow : (10 : ℚ) ^ ((decimalLength c - 1 : Nat) : Int) ≤ c := by
      rw [zpow_natCast]
      exact_mod_cast pow_decimalLength_le hc
    have hsplit : (decimalLength c + e - 1 : Int) = (decimalLength c - 1 : Nat) + e := by omega
    rw [hsplit, zpow_add₀ hten.ne']
    exact mul_le_mul_of_nonneg_right hpow he.le
  · have hpow : (c : ℚ) < (10 : ℚ) ^ (decimalLength c : Int) := by
      rw [zpow_natCast]
      exact_mod_cast lt_pow_decimalLength c
    rw [zpow_add₀ hten.ne']
    exact mul_lt_mul_of_pos_right hpow he

theorem Nearest.coefficient_pos {r : Nat} {x : Decimal} (hr : 0 < r)
    (h : Nearest r (x.value * unitsInOne)) : 0 < x.coefficient := by
  rw [Nat.pos_iff_ne_zero]
  intro hzero
  have hpos := h.pos hr
  rw [Decimal.value, hzero, Nat.cast_zero, zero_mul, zero_mul] at hpos
  exact hpos.false

/-- What rounds to a number other than zero has a digit before the 330th place after the point. -/
theorem le_length_of_nearest {r c : Nat} {e : Int} (hr : 0 < r)
    (h : Nearest r (Decimal.value ⟨c, e⟩ * unitsInOne)) : -330 ≤ decimalLength c + e := by
  by_contra hlt
  have hten : (0 : ℚ) < 10 := by norm_num
  obtain ⟨hbelow, habove⟩ := value_bounds (h.coefficient_pos hr) e
  have hhalf : (1 : ℚ) ≤ Decimal.value ⟨c, e⟩ * (2 * unitsInOne : Nat) := by
    have hone : (1 : ℚ) ≤ units (r - 1) + units r := by
      exact_mod_cast Nat.le_add_left_of_le (units_pos hr)
    have hlow := hone.trans h.low
    rwa [mul_left_comm, ← Nat.cast_two, ← Nat.cast_mul] at hlow
  have hpow : (10 : ℚ) ^ (decimalLength c + e) ≤ (10 : ℚ) ^ (-(331 : Nat) : Int) :=
    zpow_le_zpow_right₀ (by norm_num) (by omega)
  rw [zpow_neg, zpow_natCast] at hpow
  have hsmall : ((2 * unitsInOne : Nat) : ℚ) < 10 ^ 331 := by exact_mod_cast two_mul_unitsInOne_lt
  have hprod := mul_lt_mul'' (habove.trans_le hpow) hsmall ((zpow_pos hten _).le.trans hbelow)
    (Nat.cast_nonneg _)
  rw [inv_mul_cancel₀ (pow_pos hten 331).ne'] at hprod
  exact absurd hhalf (not_le.mpr hprod)

/-- Unless its size is decided in advance, a decimal is rounded as a quotient. -/
theorem ofDecimal_eq_ofQuotient (negative : Bool) {c : Nat} {e : Int} (hc : 0 < c)
    (hmax : decimalLength c + e ≤ 310) (hmin : -330 ≤ decimalLength c + e) :
    ofDecimal negative c e =
      ofQuotient negative (Decimal.toQuotient ⟨c, e⟩).1 (Decimal.toQuotient ⟨c, e⟩).2 := by
  unfold ofDecimal Decimal.toQuotient
  rw [if_neg hc.ne']
  dsimp only
  rw [if_neg (by omega), if_neg (by omega)]
  split
  · with_reducible rfl
  · with_reducible rfl

section Range

variable {rank : Fin (2047 * Nat.pow 2 52)} {c : Nat} {e : Int} (hrank : 0 < rank.val)
  (h : Nearest rank (Decimal.value ⟨c, e⟩ * unitsInOne))
include hrank h

/-- What rounds to a finite number has no digit before the 310th place. -/
theorem length_le_of_nearest : decimalLength c + e ≤ 310 := by
  by_contra hlt
  have hunits : (0 : ℚ) < unitsInOne := Nat.cast_pos.mpr unitsInOne_pos
  obtain ⟨n, hn, hle⟩ := exists_units_le
  have hself : (units rank : ℚ) ≤ n * unitsInOne := by exact_mod_cast hle _ rank.isLt.le
  have hnext : (units (rank + 1) : ℚ) ≤ n * unitsInOne := by exact_mod_cast hle _ rank.isLt
  have hmul : Decimal.value ⟨c, e⟩ * unitsInOne ≤ n * unitsInOne := by linarith [h.high]
  have hvalue : Decimal.value ⟨c, e⟩ < (10 : ℚ) ^ 310 :=
    (le_of_mul_le_mul_right hmul hunits).trans_lt (by exact_mod_cast hn)
  have hpow : (10 : ℚ) ^ ((310 : Nat) : Int) ≤ (10 : ℚ) ^ (decimalLength c + e - 1) :=
    zpow_le_zpow_right₀ (by norm_num) (by omega)
  rw [zpow_natCast] at hpow
  exact absurd hvalue (not_lt.mpr (hpow.trans (value_bounds (h.coefficient_pos hrank) e).1))

/-- A decimal between the midpoints of a magnitude is read as that magnitude. -/
theorem ofDecimal_of_nearest (negative : Bool) :
    ofDecimal negative c e = .finite negative rank := by
  have hquotient := ofDecimal_eq_ofQuotient negative (h.coefficient_pos hrank)
    (length_le_of_nearest hrank h) (le_length_of_nearest hrank h)
  rw [Decimal.value_mul_units] at h
  rw [hquotient, ofQuotient_eq_ofRank,
    nearestRank_of_nearest (Decimal.toQuotient_pos _) hrank h, ofRank_of_lt]

end Range

end Binary64

end ScriptDefs
