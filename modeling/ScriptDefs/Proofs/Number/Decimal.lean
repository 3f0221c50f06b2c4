import Mathlib.Data.List.Forall2
import ScriptDefs.Number.Numeral
import ScriptDefs.Proofs.Data.Fields

/-!
# Decimal numerals

An integer that is written in decimal digits is read back as the same integer, unless it has more
digits than are converted.
-/

namespace ScriptDefs

namespace CodePoint

/-! ## Digits -/

variable {c : Char}

theorem digit_bounds (h : c.isDigit = true) : 48 ≤ c.toNat ∧ c.toNat ≤ 57 := by
  rw [Char.isDigit, Bool.and_eq_true, decide_eq_true_iff, decide_eq_true_iff] at h
  exact h

theorem asciiDigit?_of_isDigit (c : Char) (h : c.isDigit = true) :
    asciiDigit? (.scalar c) = some (c.toNat - 48) :=
  if_pos (digit_bounds h)

/-- An ASCII digit has the same value among the digits of all scripts. -/
theorem digit?_of_asciiDigit? {c : CodePoint} {d : Nat} (h : c.asciiDigit? = some d) :
    c.digit? = some d := by
  unfold asciiDigit? at h
  split at h
  · next hbounds =>
    have hzero : digitZeros.find? (fun z ↦ z ≤ c.toNat && c.toNat < z + 10) = some 0x30 :=
      List.find?_cons_of_pos (by simp; omega)
    rw [digit?, hzero]
    exact h
  · cases h

theorem digit?_of_isDigit (h : c.isDigit = true) : digit? (.scalar c) = some (c.toNat - 48) :=
  digit?_of_asciiDigit? (asciiDigit?_of_isDigit c h)

theorem isBlank_of_isDigit (h : c.isDigit = true) : isBlank (.scalar c) = false := by
  have hbounds := digit_bounds h
  refine List.any_eq_false.mpr fun r hr ↦ ?_
  rw [Bool.and_eq_true, decide_eq_true_iff, decide_eq_true_iff]
  simp only [blankRanges, List.mem_cons, List.not_mem_nil] at hr
  change ¬ (r.1 ≤ c.toNat ∧ c.toNat ≤ r.2)
  grind

end CodePoint

namespace Text

/-! ## Runs of digits -/

section Runs

variable {value? : CodePoint → Option Nat} {t tail : Text} {ds : List Nat}

/-- The digits of a text are read, and then those that follow. -/
theorem spanDigits_spelled (h : List.Forall₂ (fun c d ↦ value? c = some d) t ds) (tail : Text) :
    spanDigits value? (t ++ tail) =
      (ds ++ (spanDigits value? tail).1, (spanDigits value? tail).2) := by
  induction h with
  | nil => rfl
  | cons hc _ ih => rw [List.cons_append, spanDigits, hc, ih, List.cons_append]

theorem spanDigits_of_head (h : ∀ c ∈ t.head?, value? c = none) :
    spanDigits value? t = ([], t) := by
  cases t with
  | nil => rfl
  | cons c t => rw [spanDigits, h c rfl]

/-- A run of digits is read up to what follows it. -/
theorem spanDigits_spelled_of_head (h : List.Forall₂ (fun c d ↦ value? c = some d) t ds)
    (htail : ∀ c ∈ tail.head?, value? c = none) : spanDigits value? (t ++ tail) = (ds, tail) := by
  rw [spanDigits_spelled h, spanDigits_of_head htail, List.append_nil]

end Runs

variable {cs : List Char}

/-- A run of ASCII digits is read up to what follows it. -/
theorem spanDigits_append {value? : CodePoint → Option Nat}
    (hvalue : ∀ c : Char, c.isDigit = true → value? (.scalar c) = some (c.toNat - 48))
    (h : ∀ c ∈ cs, c.isDigit = true) {rest : Text} (hrest : ∀ c ∈ rest.head?, value? c = none) :
    spanDigits value? (cs.map CodePoint.scalar ++ rest) = (cs.map (·.toNat - 48), rest) := by
  refine spanDigits_spelled_of_head ?_ hrest
  rw [List.forall₂_map_left_iff, List.forall₂_map_right_iff, List.forall₂_same]
  exact fun c hc ↦ hvalue c (h c hc)

/-- A run of ASCII digits is read to its end. -/
theorem spanDigits_of_isDigit (h : ∀ c ∈ cs, c.isDigit = true) :
    spanDigits CodePoint.digit? (cs.map CodePoint.scalar) = (cs.map (·.toNat - 48), []) := by
  have hspan : spanDigits CodePoint.digit? (cs.map CodePoint.scalar ++ []) = _ :=
    spanDigits_append (fun _ ↦ CodePoint.digit?_of_isDigit) h fun _ hc ↦ nomatch hc
  rwa [List.append_nil] at hspan

theorem numberOf_digits (cs : List Char) :
    numberOf 10 (cs.map (·.toNat - 48)) = Nat.ofDigitChars 10 cs 0 := by
  rw [numberOf, List.foldl_map, Nat.ofDigitChars_eq_foldl]
  congr 1
  funext n c
  rw [Nat.mul_comm]
  rfl

/-- A run of ASCII digits has no hexadecimal mark. -/
theorem leadingHex?_of_isDigit (h : ∀ c ∈ cs, c.isDigit = true) :
    leadingHex? (cs.map CodePoint.scalar) = none := by
  rw [leadingHex?.eq_def]
  split
  · next x t heq =>
    have hmem : CodePoint.scalar x ∈ cs.map CodePoint.scalar := heq ▸ by simp
    obtain ⟨c, hc, heq'⟩ := List.mem_map.mp hmem
    cases heq'
    have hdigit := h x hc
    rw [if_neg]
    rintro (rfl | rfl) <;> cases hdigit
  · rfl

/-- There is no white space and no sign before a run of ASCII digits. -/
theorem takeSign_of_isDigit (hne : cs ≠ []) (h : ∀ c ∈ cs, c.isDigit = true) :
    takeSign (trimStart (cs.map CodePoint.scalar)) = (false, cs.map CodePoint.scalar) := by
  obtain ⟨c, cs, rfl⟩ := List.exists_cons_of_ne_nil hne
  have hc := h c List.mem_cons_self
  have htrim : trimStart ((c :: cs).map CodePoint.scalar) = (c :: cs).map CodePoint.scalar :=
    List.dropWhile_cons_of_neg (by simp [CodePoint.isBlank_of_isDigit hc])
  rw [htrim, List.map_cons, takeSign.eq_def]
  split
  · next heq =>
    cases heq
    cases hc
  · next heq =>
    cases heq
    cases hc
  · rfl

/-- Digits after a sign or none are read as the number that they denote, up to the limit. -/
theorem leadingInt?_of_takeSign {t : Text} {negative : Bool} (hne : cs ≠ [])
    (h : ∀ c ∈ cs, c.isDigit = true)
    (hsign : takeSign t.trimStart = (negative, cs.map CodePoint.scalar)) :
    t.leadingInt? = do
      return some (signedInt negative (← DigitLimit.numberOf (cs.map (·.toNat - 48)))) := by
  obtain ⟨c, cs, rfl⟩ := List.exists_cons_of_ne_nil hne
  rw [leadingInt?, hsign]
  dsimp only
  rw [leadingHex?_of_isDigit h, spanDigits_of_isDigit h]
  rfl

/-! ## Integers in digits -/

theorem ofNat_eq (n : Nat) : ofNat n = (Nat.toDigits 10 n).map CodePoint.scalar := by
  rw [ofNat, ofString, Nat.toString_eq_repr, Nat.toList_repr]

theorem isDigit_of_mem_toDigits (n : Nat) : ∀ c ∈ Nat.toDigits 10 n, c.isDigit = true :=
  fun _ hc ↦ Nat.isDigit_of_mem_toDigits (by decide) (by decide) hc

/-- The digits of a number denote it, unless there are more than are converted. -/
theorem numberOf_toDigits (n : Nat) :
    DigitLimit.numberOf ((Nat.toDigits 10 n).map (·.toNat - 48)) =
      if n < Nat.pow 10 DigitLimit.limit then .ok n
      else .error (.reading (Nat.toDigits 10 n).length) := by
  have hdigits (k : Nat) (hk : 0 < k) : (Nat.toDigits 10 n).length ≤ k ↔ n < Nat.pow 10 k :=
    Nat.length_toDigits_le_iff (by decide) hk
  have hlength := hdigits DigitLimit.limit (by decide)
  rw [DigitLimit.numberOf, List.length_map, numberOf_digits,
    Nat.ofDigitChars_toDigits (by decide) (by decide)]
  by_cases h : n < Nat.pow 10 DigitLimit.limit
  · rw [if_pos h, if_neg (Nat.not_lt.mpr (hlength.mpr h))]
  · rw [if_neg h, if_pos (Nat.lt_of_not_le fun hle ↦ h (hlength.mp hle))]

/-- An integer in decimal digits is read back, unless it has more digits than are converted. -/
theorem leadingInt?_ofInt (n : Int) :
    (ofInt n).leadingInt? =
      if n.natAbs < Nat.pow 10 DigitLimit.limit then .ok (some n)
      else .error (.reading (Nat.toDigits 10 n.natAbs).length) := by
  have hdigits := isDigit_of_mem_toDigits n.natAbs
  have hread {t : Text} {negative : Bool} (hsigned : signedInt negative n.natAbs = n)
      (hsign : takeSign t.trimStart =
        (negative, (Nat.toDigits 10 n.natAbs).map CodePoint.scalar)) :
      t.leadingInt? = if n.natAbs < Nat.pow 10 DigitLimit.limit then .ok (some n)
        else .error (.reading (Nat.toDigits 10 n.natAbs).length) := by
    rw [leadingInt?_of_takeSign Nat.toDigits_ne_nil hdigits hsign, numberOf_toDigits]
    split
    · rw [ok_bind, hsigned]
      rfl
    · rfl
  cases n with
  | ofNat n =>
    rw [ofInt, ofNat_eq]
    exact hread rfl (takeSign_of_isDigit Nat.toDigits_ne_nil hdigits)
  | negSucc n =>
    rw [ofInt, ofNat_eq]
    exact hread rfl rfl

end Text

end ScriptDefs
