import ScriptDefs.Proofs.Number.Rounding

/-!
# Shortest decimals

The shortest decimal of a magnitude rounds to it, so that every decimal of the same value is read as
the number it was written for. The search ends: magnitudes are so far apart that of the two
neighbours on the grid of 17 digits one lies between the midpoints.
-/

namespace ScriptDefs

namespace Binary64

/-- A magnitude is at least the power of ten at its leading digit. -/
theorem leadingExponent_le {r : Nat} (hr : 0 < r) :
    (10 : ℚ) ^ leadingExponent r * unitsInOne ≤ units r := by
  have hunits := unitsInOne_pos
  have hten : (0 : ℚ) < 10 := by norm_num
  have hdef : leadingExponent r = if units r / unitsInOne ≠ 0 then
      (decimalLength (units r / unitsInOne) : Int) - 1
      else -(decimalLength ((unitsInOne - 1) / units r) : Int) := by
    unfold leadingExponent unitsInOne
    exact rfl
  rw [hdef]
  split
  · next h =>
    have hle := pow_decimalLength_le (Nat.pos_of_ne_zero h)
    have hlength := decimalLength_pos (units r / unitsInOne)
    have hexp : (decimalLength (units r / unitsInOne) : Int) - 1 =
        ((decimalLength (units r / unitsInOne) - 1 : Nat) : Int) := by omega
    rw [hexp, zpow_natCast]
    have hmul := (Nat.mul_le_mul_right unitsInOne hle).trans (Nat.div_mul_le_self _ _)
    exact_mod_cast hmul
  · next h =>
    have hlt := lt_pow_decimalLength ((unitsInOne - 1) / units r)
    rw [Nat.div_lt_iff_lt_mul (units_pos hr)] at hlt
    rw [zpow_neg, zpow_natCast, inv_mul_le_iff₀ (pow_pos hten _)]
    have hle : unitsInOne ≤ 10 ^ decimalLength ((unitsInOne - 1) / units r) * units r := by omega
    exact_mod_cast hle

/-- Of two points on either side of a magnitude one rounds to it, if they are apart by at most
10⁻¹⁶ of the magnitude. -/
theorem nearest_or_nearest {r : Nat} (hr : 0 < r) {u step : ℚ} (hbelow : u ≤ units r)
    (habove : units r < u + step) (hstep : 10 ^ 16 * step ≤ units r) :
    Nearest r u ∨ Nearest r (u + step) := by
  obtain ⟨gap, hpos, hprev, hnext, hgap⟩ := exists_gap hr
  rw [pow_52] at hgap
  have hpos' : (0 : ℚ) < gap := by exact_mod_cast hpos
  have hprev' : (units (r - 1) + gap : ℚ) = units r := by exact_mod_cast hprev
  have hnext' : (units r + gap : ℚ) ≤ units (r + 1) := by exact_mod_cast hnext
  have hgap' : (units r : ℚ) ≤ 2 * 4503599627370496 * gap := by exact_mod_cast hgap
  rcases lt_or_ge ((units (r - 1) + units r : ℚ)) (2 * u) with hlow | hlow
  · exact .inl (.of_lt hlow (by linarith))
  rcases lt_or_ge (2 * (u + step)) ((units r + units (r + 1) : ℚ)) with hhigh | hhigh
  · exact .inr (.of_lt (by linarith) hhigh)
  · exact absurd hhigh (by linarith)

/-- The number of steps of a power of ten up to a magnitude. -/
def stepsBelow (r : Nat) (e : Int) : Nat :=
  units r * (Decimal.toQuotient ⟨1, e⟩).2 / ((Decimal.toQuotient ⟨1, e⟩).1 * unitsInOne)

/-- So many steps lead to the magnitude or not quite, and one more leads past it. -/
theorem stepsBelow_bounds (r : Nat) (e : Int) :
    Decimal.value ⟨stepsBelow r e, e⟩ * unitsInOne ≤ units r ∧
      units r < Decimal.value ⟨stepsBelow r e + 1, e⟩ * unitsInOne := by
  have hten : (0 : ℚ) < 10 := by norm_num
  have hd := Decimal.toQuotient_pos ⟨1, e⟩
  have hdiv : (((Decimal.toQuotient ⟨1, e⟩).1 : ℚ) / (Decimal.toQuotient ⟨1, e⟩).2) = 10 ^ e := by
    rw [Decimal.toQuotient_div, Decimal.value, Nat.cast_one, one_mul]
  unfold stepsBelow
  generalize (Decimal.toQuotient ⟨1, e⟩).1 = s at *
  generalize (Decimal.toQuotient ⟨1, e⟩).2 = d at *
  have hd' : (0 : ℚ) < d := Nat.cast_pos.mpr hd
  have hs : 0 < s := by
    rw [Nat.pos_iff_ne_zero]
    rintro rfl
    rw [Nat.cast_zero, zero_div] at hdiv
    exact (zpow_pos hten e).ne hdiv
  have hvalue (c : Nat) : Decimal.value ⟨c, e⟩ * unitsInOne = (c * (s * unitsInOne) : Nat) / d := by
    rw [Decimal.value, ← hdiv, Nat.cast_mul, Nat.cast_mul]
    ring
  rw [hvalue, hvalue, div_le_iff₀ hd', lt_div_iff₀ hd']
  constructor
  · exact_mod_cast Nat.div_mul_le_self _ _
  · exact_mod_cast Nat.lt_mul_of_div_lt (Nat.lt_succ_self _) (Nat.mul_pos hs unitsInOne_pos)

/-- A decimal that is found rounds to the magnitude; if none is found, no neighbour on the grid
does. -/
theorem decimalWith?_spec {r digits : Nat} {e : Int}
    (he : leadingExponent r - (digits - 1 : Nat) = e) :
    (∀ x ∈ decimalWith? r digits, roundsTo r x.toQuotient = true) ∧
      (decimalWith? r digits = none →
        roundsTo r (Decimal.toQuotient ⟨stepsBelow r e, e⟩) = false ∧
        roundsTo r (Decimal.toQuotient ⟨stepsBelow r e + 1, e⟩) = false) := by
  subst he
  unfold decimalWith? stepsBelow unitsInOne
  dsimp only
  split
  · next h _ => exact ⟨fun x hx ↦ by cases hx; exact h, fun h ↦ (nomatch h)⟩
  · next _ h => exact ⟨fun x hx ↦ by cases hx; exact h, fun h ↦ (nomatch h)⟩
  · next hbelow habove =>
    refine ⟨fun x hx ↦ ?_, fun h ↦ (nomatch h)⟩
    cases hx
    rcases roundedQuotient_or _ _ with h | h
    · rw [h]
      exact hbelow
    · rw [h]
      exact habove
  · next hbelow habove => exact ⟨fun x hx ↦ (nomatch hx), fun _ ↦ ⟨hbelow, habove⟩⟩

/-- Seventeen digits tell every magnitude from its neighbours. -/
theorem decimalWith?_seventeen {r : Nat} (hr : 0 < r) : decimalWith? r 17 ≠ none := by
  intro hnone
  obtain ⟨e, he⟩ : ∃ e, leadingExponent r - (17 - 1 : Nat) = e := ⟨_, rfl⟩
  obtain ⟨hfits, hfits'⟩ := (decimalWith?_spec he).2 hnone
  obtain ⟨hbelow, habove⟩ := stepsBelow_bounds r e
  have hten : (0 : ℚ) < 10 := by norm_num
  have hnext : Decimal.value ⟨stepsBelow r e + 1, e⟩ * unitsInOne =
      Decimal.value ⟨stepsBelow r e, e⟩ * unitsInOne + 10 ^ e * unitsInOne := by
    rw [Decimal.value, Decimal.value, Nat.cast_succ]
    ring
  have hstep : 10 ^ 16 * ((10 : ℚ) ^ e * unitsInOne) ≤ units r := by
    have hlead := leadingExponent_le hr
    have hexponent : leadingExponent r = (16 : Nat) + e := by omega
    rw [hexponent, zpow_add₀ hten.ne', zpow_natCast] at hlead
    rwa [mul_assoc] at hlead
  rcases nearest_or_nearest hr hbelow (hnext ▸ habove) hstep with h | h
  · rw [← roundsTo_iff, hfits] at h
    cases h
  · rw [← hnext, ← roundsTo_iff, hfits'] at h
    cases h

/-- Trying one precision after the other ends with a decimal that rounds to the magnitude. -/
theorem shortestFrom_roundsTo {r digits fuel : Nat} (hr : 0 < r) (hdigits : digits ≤ 17)
    (hfuel : 17 < digits + fuel) : roundsTo r (shortestFrom r digits fuel).toQuotient = true := by
  induction fuel generalizing digits with
  | zero => omega
  | succ fuel ih =>
    rw [shortestFrom]
    cases h : decimalWith? r digits with
    | some x => exact (decimalWith?_spec rfl).1 x h
    | none =>
      have hne : digits ≠ 17 := by
        rintro rfl
        exact decimalWith?_seventeen hr h
      exact ih (by omega) (by omega)

end Binary64

namespace Decimal

/-- Zeros at the end of the coefficient do not change the value when they go to the exponent. -/
theorem value_stripZeros (fuel : Nat) (x : Decimal) : (x.stripZeros fuel).value = x.value := by
  induction fuel generalizing x with
  | zero => rfl
  | succ fuel ih =>
    rw [stripZeros]
    split
    · next h =>
      have hc : ((x.coefficient / 10 : Nat) : ℚ) * 10 = x.coefficient := by
        exact_mod_cast Nat.div_mul_cancel (Nat.dvd_of_mod_eq_zero h.2)
      rw [ih, value, value, zpow_add₀ (by norm_num), zpow_one, ← hc]
      ring
    · rfl

end Decimal

namespace Binary64

/-- The shortest decimal of a magnitude rounds to it. -/
theorem shortest_nearest {r : Nat} (hr : 0 < r) :
    Nearest r ((shortest r).value * unitsInOne) := by
  rw [shortest, if_neg hr.ne', Decimal.value_stripZeros, ← roundsTo_iff]
  exact shortestFrom_roundsTo hr (by decide) (by decide)

theorem shortest_coefficient_pos {r : Nat} (hr : 0 < r) : 0 < (shortest r).coefficient :=
  (shortest_nearest hr).coefficient_pos hr

/-- Every decimal of the same value as the shortest one is read as the number that this was written
for. -/
theorem ofDecimal_of_value_eq (negative : Bool) {rank : Fin (2047 * Nat.pow 2 52)} {c : Nat}
    {e : Int} (h : Decimal.value ⟨c, e⟩ = (shortest rank).value) :
    ofDecimal negative c e = .finite negative rank := by
  rcases Nat.eq_zero_or_pos rank.val with hz | hr
  · rw [hz, shortest, if_pos rfl, Decimal.value, Decimal.value, Nat.cast_zero, zero_mul,
      mul_eq_zero, or_iff_left (zpow_pos (by norm_num) e).ne', Nat.cast_eq_zero] at h
    rw [ofDecimal, if_pos h]
    congr 1
    exact Fin.ext hz.symm
  · exact ofDecimal_of_nearest hr (h ▸ shortest_nearest hr) negative

end Binary64

end ScriptDefs
