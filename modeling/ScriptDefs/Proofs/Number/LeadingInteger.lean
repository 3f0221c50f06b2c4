import Mathlib.Data.Nat.Digits.Defs
import ScriptDefs.Proofs.Number.Decimal

/-!
# The integer at the start of a text

The usual rule for the integer at the start of a text: after white space and a sign or none come
hexadecimal digits if `0x` or `0X` stands before them, or else decimal digits, as many as there are, and
without any digit there is no integer. What is read follows this rule with the decimal digits of every
script, but for a mark `0x` without digits, whose zero is read, and for more decimal digits than are
converted, which is an error.
-/

namespace ScriptDefs

namespace Text

/-! ## The rule -/

/-- The values of the digits at the start of a text, as many as there are. -/
def digitRun (value? : CodePoint → Option Nat) (t : Text) : List Nat :=
  (t.takeWhile fun c ↦ (value? c).isSome).filterMap value?

/-- What a run of digits after a sign denotes; an empty one denotes nothing. -/
def runValue (base : Nat) (negative : Bool) (digits : List Nat) : Option Int :=
  if digits = [] then none else some (signedInt negative (Nat.ofDigits base digits.reverse))

/-- The text after white space and a sign or none. -/
def unsigned (t : Text) : Text := (takeSign t.trimStart).2

/-- The text after `0x` or `0X`, if it starts so. -/
def afterHexMark? (t : Text) : Option Text :=
  (List.isPrefixOf? (ofString "0x") t).or (List.isPrefixOf? (ofString "0X") t)

/-- The integer that a text starts with, by the rule, for some decimal digits. -/
def integerBy (decimal? : CodePoint → Option Nat) (t : Text) : Option Int :=
  let negative := (takeSign t.trimStart).1
  match t.unsigned.afterHexMark? with
  | some rest => runValue 16 negative (digitRun CodePoint.hexDigit? rest)
  | none => runValue 10 negative (digitRun decimal? t.unsigned)

/-! ## Where something else is read -/

/-- A text starts with a mark of hexadecimal digits, but has no such digit after it. -/
def HasBareMark (t : Text) : Prop :=
  ∃ rest ∈ t.unsigned.afterHexMark?, digitRun CodePoint.hexDigit? rest = []

instance (t : Text) : Decidable t.HasBareMark :=
  inferInstanceAs (Decidable (∃ rest ∈ t.unsigned.afterHexMark?, _))

/-- The decimal digits of any script with which a text starts; none if they are hexadecimal. -/
def decimalRun (t : Text) : List Nat :=
  if t.unsigned.afterHexMark?.isSome then [] else digitRun CodePoint.digit? t.unsigned

/-- After the ASCII digits with which a text starts, or in place of them, comes a digit of another
script. -/
def GoesOnInOtherScript (t : Text) : Prop :=
  ∃ c ∈ (t.unsigned.dropWhile fun c ↦ c.asciiDigit?.isSome).head?, c.isDigit = true

/-! ## Runs of digits -/

section Runs

variable {value? : CodePoint → Option Nat}

theorem digitRun_cons_of_some {c : CodePoint} {d : Nat} (h : value? c = some d) (t : Text) :
    digitRun value? (c :: t) = d :: digitRun value? t := by
  simp [digitRun, h]

theorem digitRun_cons_of_none {c : CodePoint} (h : value? c = none) (t : Text) :
    digitRun value? (c :: t) = [] := by
  simp [digitRun, h]

theorem spanDigits_fst (value? : CodePoint → Option Nat) (t : Text) :
    (spanDigits value? t).1 = digitRun value? t := by
  induction t with
  | nil => rfl
  | cons c t ih =>
    rw [spanDigits]
    cases hc : value? c with
    | none => rw [digitRun_cons_of_none hc]
    | some d => rw [digitRun_cons_of_some hc, ← ih]

theorem numberOf_eq_ofDigits (base : Nat) (digits : List Nat) :
    numberOf base digits = Nat.ofDigits base digits.reverse := by
  rw [Nat.ofDigits_eq_foldr, List.foldr_reverse, numberOf]
  congr 1
  funext n d
  simp [Nat.mul_comm, Nat.add_comm]

/-- The run of ASCII digits is the run of all digits, unless a digit of another script is next. -/
theorem digitRun_asciiDigit? {t : Text}
    (h : ∀ c ∈ (t.dropWhile fun c ↦ c.asciiDigit?.isSome).head?, c.isDigit = false) :
    digitRun CodePoint.digit? t = digitRun CodePoint.asciiDigit? t := by
  induction t with
  | nil => rfl
  | cons c t ih =>
    cases hc : c.asciiDigit? with
    | some d =>
      rw [List.dropWhile_cons_of_pos (by rw [hc]; rfl)] at h
      rw [digitRun_cons_of_some hc, digitRun_cons_of_some (CodePoint.digit?_of_asciiDigit? hc), ih h]
    | none =>
      rw [List.dropWhile_cons_of_neg (by rw [hc]; simp)] at h
      have hnone : c.digit? = none := by simpa [CodePoint.isDigit] using h c rfl
      rw [digitRun_cons_of_none hc, digitRun_cons_of_none hnone]

end Runs

/-! ## What is read -/

theorem afterHexMark?_eq_some_iff {t rest : Text} :
    t.afterHexMark? = some rest ↔
      ∃ x : Char, (x = 'x' ∨ x = 'X') ∧ t = .scalar '0' :: .scalar x :: rest := by
  constructor
  · intro h
    rw [afterHexMark?, Option.or_eq_some_iff] at h
    rcases h with h | ⟨_, h⟩
    · exact ⟨'x', .inl rfl, (List.isPrefixOf?_eq_some_iff_append_eq.mp h).symm⟩
    · exact ⟨'X', .inr rfl, (List.isPrefixOf?_eq_some_iff_append_eq.mp h).symm⟩
  · rintro ⟨x, rfl | rfl, rfl⟩ <;> simp [afterHexMark?, ofString, List.isPrefixOf?]

/-- Hexadecimal digits are read after a mark, if there are any. -/
theorem leadingHex?_of_mark {t rest : Text} (h : t.afterHexMark? = some rest) :
    leadingHex? t =
      if digitRun CodePoint.hexDigit? rest = [] then none
      else some (digitRun CodePoint.hexDigit? rest) := by
  obtain ⟨x, hx, rfl⟩ := afterHexMark?_eq_some_iff.mp h
  rw [leadingHex?, if_pos hx, spanDigits_fst]
  cases digitRun CodePoint.hexDigit? rest with
  | nil => rfl
  | cons d ds => rfl

theorem leadingHex?_eq_none {t : Text} (h : t.afterHexMark? = none) : leadingHex? t = none := by
  rw [leadingHex?.eq_def]
  split
  · next x rest =>
    by_cases hx : x = 'x' ∨ x = 'X'
    · rw [afterHexMark?_eq_some_iff.mpr ⟨x, hx, rfl⟩] at h
      cases h
    · rw [if_neg hx]
  · rfl

/-- The decimal digits of a mark are its zero alone. -/
theorem digitRun_of_mark {t rest : Text} (h : t.afterHexMark? = some rest) :
    digitRun CodePoint.digit? t = [0] := by
  obtain ⟨x, hx, rfl⟩ := afterHexMark?_eq_some_iff.mp h
  have hzero : CodePoint.digit? (.scalar '0') = some 0 := by decide
  have hmark : CodePoint.digit? (.scalar x) = none := by
    rcases hx with rfl | rfl <;> decide
  rw [digitRun_cons_of_some hzero, digitRun_cons_of_none hmark]

theorem leadingInt?_eq (t : Text) :
    t.leadingInt? =
      match leadingHex? t.unsigned with
      | some ds => .ok (some (signedInt (takeSign t.trimStart).1 (numberOf 16 ds)))
      | none =>
        match digitRun CodePoint.digit? t.unsigned with
        | [] => .ok none
        | ds => do return some (signedInt (takeSign t.trimStart).1 (← DigitLimit.numberOf ds)) := by
  rw [leadingInt?, unsigned]
  dsimp only
  rw [spanDigits_fst]
  rfl

/-- After a mark the rule is followed, unless there is no digit. -/
theorem leadingInt?_of_mark {t rest : Text} (h : t.unsigned.afterHexMark? = some rest) :
    t.leadingInt? =
      if digitRun CodePoint.hexDigit? rest = [] then .ok (some 0)
      else .ok (t.integerBy CodePoint.digit?) := by
  rw [leadingInt?_eq, leadingHex?_of_mark h]
  by_cases hrun : digitRun CodePoint.hexDigit? rest = []
  · rw [if_pos hrun, if_pos hrun, digitRun_of_mark h]
    cases (takeSign t.trimStart).1 <;> rfl
  · rw [if_neg hrun, if_neg hrun, integerBy, h]
    simp only [runValue, if_neg hrun, numberOf_eq_ofDigits]

/-- Without a mark the rule is followed, unless there are too many digits. -/
theorem leadingInt?_of_no_mark {t : Text} (h : t.unsigned.afterHexMark? = none) :
    t.leadingInt? =
      if DigitLimit.limit < t.decimalRun.length then .error (.reading t.decimalRun.length)
      else .ok (t.integerBy CodePoint.digit?) := by
  have hdigits : t.decimalRun = digitRun CodePoint.digit? t.unsigned := by simp [decimalRun, h]
  rw [leadingInt?_eq, leadingHex?_eq_none h, integerBy, h, ← hdigits]
  cases t.decimalRun with
  | nil => rfl
  | cons d ds =>
    dsimp only
    rw [DigitLimit.numberOf, runValue, if_neg (List.cons_ne_nil d ds), numberOf_eq_ofDigits]
    split <;> rfl

/-- The integer at the start of a text is read by the rule, with the digits of all scripts; but a mark
without digits is read as zero, and too many decimal digits are an error. The digits of other scripts
matter only where one comes next after the ASCII digits. -/
theorem leadingInt?_rule (t : Text) :
    t.leadingInt? =
        (if t.HasBareMark then .ok (some 0)
        else if DigitLimit.limit < t.decimalRun.length then .error (.reading t.decimalRun.length)
        else .ok (t.integerBy CodePoint.digit?)) ∧
      (t.integerBy CodePoint.digit? = t.integerBy CodePoint.asciiDigit? ∨
        t.GoesOnInOtherScript) := by
  constructor
  · cases hmark : t.unsigned.afterHexMark? with
    | some rest =>
      have hbare : t.HasBareMark ↔ digitRun CodePoint.hexDigit? rest = [] := by
        simp [HasBareMark, hmark]
      have hdecimal : t.decimalRun = [] := by simp [decimalRun, hmark]
      rw [leadingInt?_of_mark hmark, if_congr hbare rfl rfl, hdecimal]
      rfl
    | none =>
      have hbare : ¬ t.HasBareMark := by simp [HasBareMark, hmark]
      rw [leadingInt?_of_no_mark hmark, if_neg hbare]
  · by_cases hother : t.GoesOnInOtherScript
    · exact .inr hother
    · have hnext : ∀ c ∈ (t.unsigned.dropWhile fun c ↦ c.asciiDigit?.isSome).head?,
          c.isDigit = false := by
        intro c hc
        exact Bool.eq_false_iff.mpr fun hdigit ↦ hother ⟨c, hc, hdigit⟩
      left
      rw [integerBy, integerBy, digitRun_asciiDigit? hnext]

/-- The rule with ASCII digits is not followed where a mark has no digits. -/
theorem leadingInt?_breaks_rule_at_bare_mark :
    ¬ ∀ t : Text, t.leadingInt? = .ok (t.integerBy CodePoint.asciiDigit?) := by
  intro h
  have hread : leadingInt? (ofString "0x") = .ok (some 0) := by decide
  have hrule : integerBy CodePoint.asciiDigit? (ofString "0x") = none := by decide
  have hnone := h (ofString "0x")
  rw [hread, hrule] at hnone
  cases hnone

example : leadingInt? (ofString " -0x1Fg") = .ok (some (-31)) := by decide

end Text

end ScriptDefs
