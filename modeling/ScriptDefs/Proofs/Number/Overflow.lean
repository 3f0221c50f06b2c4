import Mathlib.Algebra.Order.Archimedean.Basic
import Mathlib.Data.Rat.Floor
import ScriptDefs.Proofs.Number.Rounding

/-!
# Decimals of every size

Every decimal, however large or small, is read as the number with the magnitude nearest to it. Where
the magnitudes end, the grid of ranks goes on: a decimal whose nearest rank is that of no finite
number is read as infinite, which are the decimals from halfway past the greatest finite number on.
-/

namespace ScriptDefs

namespace Binary64

/-! ## The nearest rank -/

theorem units_lt_succ (r : Nat) : units r < units (r + 1) := by
  rcases Nat.eq_zero_or_pos r with rfl | hr
  · exact units_pos Nat.one_pos
  · obtain ⟨gap, hpos, _, hnext, _⟩ := exists_gap hr
    omega

theorem units_strictMono : StrictMono units := strictMono_nat_of_lt_succ units_lt_succ

theorem units_pred_le (r : Nat) : units (r - 1) ≤ units r :=
  units_strictMono.monotone (Nat.sub_le r 1)

/-- Every number of units has a nearest magnitude, if those past the finite ones count. -/
theorem exists_nearest {u : ℚ} (hu : 0 ≤ u) : ∃ r, Nearest r u := by
  obtain ⟨bound, hbound⟩ := exists_nat_gt u
  have hsome : ∃ r, u < units (r + 1) := by
    refine ⟨bound, hbound.trans_le ?_⟩
    exact_mod_cast (Nat.le_succ bound).trans (units_strictMono.id_le (bound + 1))
  -- the last magnitude that is not greater, and the next one
  obtain ⟨r, hle, hlt⟩ : ∃ r, (units r : ℚ) ≤ u ∧ u < units (r + 1) := by
    classical
    refine ⟨Nat.find hsome, ?_, Nat.find_spec hsome⟩
    rcases Nat.eq_zero_or_pos (Nat.find hsome) with hz | hpos
    · rw [hz]
      exact_mod_cast hu
    · have hmin := Nat.find_min hsome (Nat.pred_lt hpos.ne')
      rwa [not_lt, Nat.pred_eq_sub_one, Nat.sub_add_cancel hpos] at hmin
  have hprev : (units (r - 1) : ℚ) ≤ units r := by exact_mod_cast units_pred_le r
  have hnext : (units (r + 1) : ℚ) < units (r + 1 + 1) := by
    exact_mod_cast units_lt_succ (r + 1)
  have hpred : r % 2 = 1 → (units (r - 1) : ℚ) < units r := fun hodd ↦ by
    exact_mod_cast units_strictMono (by omega)
  rcases lt_trichotomy (2 * u) (units r + units (r + 1)) with h | h | h
  · refine ⟨r, by linarith, h.le, fun hodd ↦ ⟨?_, h⟩⟩
    linarith [hpred hodd]
  · rcases Nat.mod_two_eq_zero_or_one r with heven | hodd
    · exact ⟨r, by linarith, h.le, fun hodd ↦ by omega⟩
    · refine ⟨r + 1, ?_, by linarith, fun hodd' ↦ by omega⟩
      rw [Nat.add_sub_cancel]
      exact h.ge
  · refine ⟨r + 1, ?_, by linarith, fun _ ↦ ⟨?_, by linarith⟩⟩
    · rw [Nat.add_sub_cancel]
      exact h.le
    · rw [Nat.add_sub_cancel]
      exact h

/-- What is at most half a unit is rounded to zero. -/
theorem nearestRank_zero {n d : Nat} (hd : 0 < d) (h : Nearest 0 (n / d)) :
    nearestRank n d = 0 := by
  obtain ⟨_, hhigh, _⟩ := (nearest_div_iff hd).mp h
  have hzero : units 0 = 0 := units_eq (Nat.zero_le _)
  have hone : units (0 + 1) = 1 := units_eq (by rw [pow_52]; omega)
  rw [hzero, hone, Nat.zero_mul, Nat.one_mul] at hhigh
  have hshift : d * Nat.pow 2 0 = d := Nat.mul_one d
  have hlt : n < Nat.pow 2 53 * (d * Nat.pow 2 0) := by
    rw [hshift, pow_53]
    omega
  rw [nearestRank_eq hd hlt (.inl rfl), hshift, Nat.zero_mul, Nat.zero_add]
  exact roundedQuotient_eq hd (by omega) (by omega) fun hodd ↦ by omega

theorem nearestRank_eq_of_nearest {n d r : Nat} (hd : 0 < d) (h : Nearest r (n / d)) :
    nearestRank n d = r := by
  rcases Nat.eq_zero_or_pos r with rfl | hr
  · exact nearestRank_zero hd h
  · exact nearestRank_of_nearest hd hr h

/-! ## Decimals -/

/-- Half a unit is less than one. -/
theorem Nearest.lt_one {x : ℚ} (h : Nearest 0 (x * unitsInOne)) : x < 1 := by
  have hunits : (1 : ℚ) ≤ unitsInOne := by exact_mod_cast unitsInOne_pos
  have hhigh := h.high
  rw [units_eq (Nat.zero_le _), units_eq (by rw [pow_52]; omega)] at hhigh
  by_contra hlt
  have hmul := mul_le_mul (not_lt.mp hlt) hunits zero_le_one (by linarith)
  push_cast at hhigh
  linarith

/-- What has a digit before the 310th place is past the finite magnitudes. -/
theorem rank_of_length {r c : Nat} {e : Int} (hc : 0 < c) (hmax : 310 < decimalLength c + e)
    (h : Nearest r (Decimal.value ⟨c, e⟩ * unitsInOne)) : ¬ r < 2047 * Nat.pow 2 52 := by
  intro hr
  rcases Nat.eq_zero_or_pos r with rfl | hpos
  · have hone : (1 : ℚ) ≤ 10 ^ (decimalLength c + e - 1) := one_le_zpow₀ (by norm_num) (by omega)
    exact absurd (hone.trans (value_bounds hc e).1) h.lt_one.not_ge
  · obtain ⟨rank, rfl⟩ : ∃ rank : Fin (2047 * Nat.pow 2 52), r = rank.val := ⟨⟨r, hr⟩, rfl⟩
    exact absurd hmax (Int.not_lt.mpr (length_le_of_nearest hpos h))

/-- A decimal is read as the number with the nearest rank. -/
theorem ofDecimal_eq_ofRank (negative : Bool) {r c : Nat} {e : Int}
    (h : Nearest r (Decimal.value ⟨c, e⟩ * unitsInOne)) :
    ofDecimal negative c e = ofRank negative r := by
  rcases Nat.eq_zero_or_pos c with rfl | hc
  · have hr : r = 0 := by
      by_contra hr
      exact absurd (h.coefficient_pos (Nat.pos_of_ne_zero hr)) (Nat.lt_irrefl 0)
    rw [hr, ofDecimal, if_pos rfl]
    exact (ofRank_of_lt negative 0).symm
  rcases Int.lt_or_le 310 (decimalLength c + e) with hmax | hmax
  · rw [ofRank, dif_neg (rank_of_length hc hmax h), ofDecimal, if_neg hc.ne']
    exact if_pos hmax
  rcases Int.lt_or_le (decimalLength c + e) (-330) with hmin | hmin
  · have hr : r = 0 := by
      by_contra hr
      exact absurd (le_length_of_nearest (Nat.pos_of_ne_zero hr) h) (Int.not_le.mpr hmin)
    rw [hr, ofDecimal, if_neg hc.ne']
    dsimp only
    rw [if_neg (Int.not_lt.mpr hmax), if_pos hmin]
    exact (ofRank_of_lt negative 0).symm
  · rw [Decimal.value_mul_units] at h
    rw [ofDecimal_eq_ofQuotient negative hc hmax hmin, ofQuotient_eq_ofRank,
      nearestRank_eq_of_nearest (Decimal.toQuotient_pos _) h]

/-! ## Infinite numbers -/

/-- Halfway past the greatest finite number, by as much again as lies between it and the one before. -/
def overflow : ℚ := 2 ^ 1024 - 2 ^ 970

/-- Numbers are rounded past an odd rank from the midpoint after it on. -/
theorem Nearest.lt_rank_iff {r last : Nat} {u : ℚ} (hodd : last % 2 = 1) (h : Nearest r u) :
    last < r ↔ (units last + units (last + 1) : ℚ) ≤ 2 * u := by
  constructor
  · intro hr
    have hprev : (units last : ℚ) ≤ units (r - 1) := by
      exact_mod_cast units_strictMono.monotone (Nat.le_sub_one_of_lt hr)
    have hself : (units (last + 1) : ℚ) ≤ units r := by
      exact_mod_cast units_strictMono.monotone hr
    linarith [h.low]
  · intro hu
    by_contra hr
    rcases Nat.lt_or_eq_of_le (Nat.le_of_not_lt hr) with hlt | rfl
    · have hself : (units r : ℚ) < units last := by exact_mod_cast units_strictMono hlt
      have hnext : (units (r + 1) : ℚ) ≤ units (last + 1) := by
        exact_mod_cast units_strictMono.monotone (Nat.succ_le_succ hlt.le)
      linarith [h.high]
    · linarith [(h.odd hodd).2]

theorem cast_pow_sub_pow {j k : Nat} (h : j ≤ k) :
    ((Nat.pow 2 k - Nat.pow 2 j : Nat) : ℚ) = 2 ^ k - 2 ^ j := by
  have hle : Nat.pow 2 j ≤ Nat.pow 2 k := Nat.pow_le_pow_right (by decide) h
  rw [Nat.cast_sub hle]
  exact congrArg₂ _ (Nat.cast_pow 2 k) (Nat.cast_pow 2 j)

/-- The last finite rank is odd, and its midpoint to the next one is where numbers become infinite. -/
theorem exists_last : ∃ last bound : Nat, 2047 * Nat.pow 2 52 = last + 1 ∧ last % 2 = 1 ∧
    (bound : ℚ) = overflow ∧ units last + units (last + 1) = 2 * (bound * unitsInOne) := by
  have hcast := cast_pow_sub_pow (j := 970) (k := 1024) (by decide)
  exact ⟨2047 * Nat.pow 2 52 - 1, _, by decide +kernel, by decide +kernel, hcast,
    by decide +kernel⟩

/-- The ranks that are those of no finite number are those of the numbers from there on. -/
theorem Nearest.le_rank_iff {r : Nat} {x : ℚ} (h : Nearest r (x * unitsInOne)) :
    2047 * Nat.pow 2 52 ≤ r ↔ overflow ≤ x := by
  obtain ⟨last, bound, hlast, hodd, hbound, hsum⟩ := exists_last
  have hunits : (0 : ℚ) < unitsInOne := Nat.cast_pos.mpr unitsInOne_pos
  have hsum' : (units last + units (last + 1) : ℚ) = 2 * (overflow * unitsInOne) := by
    rw [← hbound]
    exact_mod_cast hsum
  rw [hlast, Nat.succ_le_iff, h.lt_rank_iff hodd, hsum', mul_le_mul_iff_right₀ two_pos,
    mul_le_mul_iff_left₀ hunits]

end Binary64

end ScriptDefs
