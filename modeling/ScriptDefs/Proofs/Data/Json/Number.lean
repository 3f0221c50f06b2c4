import ScriptDefs.Data.Json.Printer
import ScriptDefs.Data.Json.Reader
import ScriptDefs.Proofs.Number.Decimal
import ScriptDefs.Proofs.Number.Shortest

/-!
# Numbers in JSON text

An integer in decimal digits and a finite floating-point number in its shortest digits are read back
from the beginning of a text, as the same integer and as the same number, if what follows cannot
belong to a number. Every layout of the shortest digits has a point or an exponent, which an integer
never has.
-/

namespace ScriptDefs

namespace Text

/-- The digits of a positive number begin with a positive one. -/
theorem toDigits_head_pos {n : Nat} (hn : 0 < n) :
    ∀ c ∈ (Nat.toDigits 10 n).head?, 0 < c.toNat - 48 := by
  have hdigit : ∀ m < 10, 0 < m → 0 < m.digitChar.toNat - 48 := by decide
  induction n using Nat.strongRecOn with
  | ind n ih =>
    intro c hc
    rcases Nat.lt_or_ge n 10 with hlt | hge
    · rw [Nat.toDigits_of_lt_base hlt] at hc
      cases hc
      exact hdigit n hlt hn
    · rw [Nat.toDigits_of_base_le (by decide) hge,
        List.head?_append_of_ne_nil _ Nat.toDigits_ne_nil] at hc
      exact ih (n / 10) (by omega) (by omega) c hc

end Text

namespace Json

variable {ws fs : List Char} {rest : Text}

/-! ## Numerals -/

/-- The digits of an integer without a superfluous zero in front. -/
structure IsWhole (ws : List Char) : Prop where
  isDigit : ∀ c ∈ ws, c.isDigit = true
  ne_nil : ws ≠ []
  leads : ws.length = 1 ∨ ∀ c ∈ ws.head?, 0 < c.toNat - 48

theorem isWhole_zero : IsWhole ['0'] :=
  ⟨List.forall_mem_singleton.mpr rfl, List.cons_ne_nil _ _, .inl rfl⟩

theorem isWhole_toDigits (n : Nat) : IsWhole (Nat.toDigits 10 n) where
  isDigit := Text.isDigit_of_mem_toDigits n
  ne_nil := Nat.toDigits_ne_nil
  leads := by
    rcases Nat.eq_zero_or_pos n with rfl | hn
    · exact .inl rfl
    · exact .inr (Text.toDigits_head_pos hn)

/-- There is no minus sign in front of digits. -/
theorem IsWhole.head_ne_minus (hws : IsWhole ws) :
    ∀ c ∈ (ws.map CodePoint.scalar ++ rest).head?, c ≠ .scalar '-' := by
  obtain ⟨c, cs, rfl⟩ := List.exists_cons_of_ne_nil hws.ne_nil
  rintro _ ⟨⟩ heq
  cases heq
  exact absurd (hws.isDigit '-' List.mem_cons_self) (by decide)

/-- What a number does not go on with. -/
structure EndsNumber (rest : Text) : Prop where
  digit : ∀ c ∈ rest.head?, CodePoint.asciiDigit? c = none
  point : ∀ c ∈ rest.head?, c ≠ .scalar '.'
  exponent : ∀ c ∈ rest.head?, c ≠ .scalar 'e' ∧ c ≠ .scalar 'E'

theorem readWhole?_append (hws : IsWhole ws)
    (hrest : ∀ c ∈ rest.head?, CodePoint.asciiDigit? c = none) :
    readWhole? (ws.map CodePoint.scalar ++ rest) = some (ws.map (·.toNat - 48), rest) := by
  rw [readWhole?, Text.spanDigits_append CodePoint.asciiDigit?_of_isDigit hws.isDigit hrest]
  obtain ⟨c, cs, rfl⟩ := List.exists_cons_of_ne_nil hws.ne_nil
  rw [List.map_cons]
  split
  · next heq => cases heq
  · next heq =>
    -- a zero in front stands alone
    obtain ⟨⟨hc, hcs⟩, -⟩ := (by simpa using heq : (_ ∧ _) ∧ _)
    rcases hws.leads with hlength | hpos
    · cases cs <;> simp_all
    · have := hpos c rfl
      omega
  · next heq => rw [← heq]

theorem signed_append (negative : Bool) (t rest : Text) :
    Binary64.signed negative t ++ rest = Binary64.signed negative (t ++ rest) := by
  cases negative <;> rfl

/-- A point and the digits after it, if there are any. -/
def fractionText (fs : List Char) : Text :=
  if fs.isEmpty then [] else .scalar '.' :: fs.map CodePoint.scalar

theorem fractionText_of_ne_nil (h : fs ≠ []) :
    fractionText fs = .scalar '.' :: fs.map CodePoint.scalar :=
  if_neg (by simpa using h)

/-- The digits before and after a point and an exponent; without digits after it there is no
point. -/
def numeralText (ws fs : List Char) (e : Option Int) : Text :=
  ws.map CodePoint.scalar ++ (fractionText fs ++ e.elim [] Binary64.exponentText)

theorem readFraction_of_ends (hrest : ∀ c ∈ rest.head?, c ≠ .scalar '.') :
    readFraction rest = ([], rest) := by
  have hleading : Text.leadingFraction CodePoint.asciiDigit? rest = ([], rest) := by
    unfold Text.leadingFraction
    split
    · exact absurd rfl (hrest _ rfl)
    · rfl
  rw [readFraction, hleading]

theorem readFraction_append (hfs : ∀ c ∈ fs, c.isDigit = true)
    (hrest : ∀ c ∈ rest.head?, CodePoint.asciiDigit? c = none ∧ c ≠ .scalar '.') :
    readFraction (fractionText fs ++ rest) = (fs.map (·.toNat - 48), rest) := by
  cases fs with
  | nil => exact readFraction_of_ends fun c hc ↦ (hrest c hc).2
  | cons c fs =>
    have hspan := Text.spanDigits_append CodePoint.asciiDigit?_of_isDigit hfs fun c hc ↦ (hrest c hc).1
    rw [readFraction, fractionText_of_ne_nil (List.cons_ne_nil c fs), List.cons_append,
      Text.leadingFraction, hspan]
    rfl

theorem readExponent_of_ends (hrest : ∀ c ∈ rest.head?, c ≠ .scalar 'e' ∧ c ≠ .scalar 'E') :
    readExponent rest = (none, rest) := by
  have hleading : Text.leadingExponent CodePoint.asciiDigit? rest = (0, rest) := by
    unfold Text.leadingExponent
    split
    · next e t =>
      have hne := hrest _ rfl
      rw [if_neg (by rintro (rfl | rfl) <;> simp at hne)]
    · rfl
  rw [readExponent, hleading]
  exact Prod.ext (if_pos rfl) rfl

/-- The digits of an exponent, two at least. -/
theorem exists_exponentText (e : Int) : ∃ cs : List Char, cs ≠ [] ∧ (∀ c ∈ cs, c.isDigit = true) ∧
    Text.numberOf 10 (cs.map (·.toNat - 48)) = e.natAbs ∧
    Binary64.exponentText e =
      .scalar 'e' :: .scalar (if e < 0 then '-' else '+') :: cs.map CodePoint.scalar := by
  have hdigits := Text.isDigit_of_mem_toDigits e.natAbs
  have hnumber : Text.numberOf 10 ((Nat.toDigits 10 e.natAbs).map (·.toNat - 48)) = e.natAbs := by
    rw [Text.numberOf_digits, Nat.ofDigitChars_toDigits (by decide) (by decide)]
  rw [Binary64.exponentText, Text.ofNat_eq]
  by_cases h : e.natAbs < 10
  · rw [if_pos h]
    exact ⟨'0' :: Nat.toDigits 10 e.natAbs, List.cons_ne_nil _ _,
      List.forall_mem_cons.mpr ⟨rfl, hdigits⟩, hnumber, rfl⟩
  · rw [if_neg h]
    exact ⟨Nat.toDigits 10 e.natAbs, Nat.toDigits_ne_nil, hdigits, hnumber, rfl⟩

theorem signedInt_natAbs (e : Int) : Text.signedInt (e < 0) e.natAbs = e := by
  unfold Text.signedInt
  by_cases h : e < 0
  · rw [if_pos (decide_eq_true h)]
    omega
  · rw [if_neg (by simpa using h)]
    omega

theorem readExponent_exponentText (e : Int)
    (hrest : ∀ c ∈ rest.head?, CodePoint.asciiDigit? c = none) :
    readExponent (Binary64.exponentText e ++ rest) = (some e, rest) := by
  obtain ⟨cs, hne, hdigits, hnumber, htext⟩ := exists_exponentText e
  have hspan := Text.spanDigits_append CodePoint.asciiDigit?_of_isDigit hdigits hrest
  have hsign (t : Text) : Text.takeSign (.scalar (if e < 0 then '-' else '+') :: t) =
      (decide (e < 0), t) := by
    by_cases he : e < 0 <;> simp only [he] <;> rfl
  have hleading : Text.leadingExponent CodePoint.asciiDigit? (Binary64.exponentText e ++ rest) =
      (e, rest) := by
    rw [htext, List.cons_append, List.cons_append, Text.leadingExponent, if_pos (.inl rfl), hsign]
    dsimp only
    rw [hspan]
    split
    · next heq => simp [hne] at heq
    · next heq =>
      cases heq
      rw [hnumber, signedInt_natAbs]
  rw [readExponent, hleading]
  refine Prod.ext (if_neg ?_) rfl
  rw [List.length_append, htext]
  simp only [List.length_cons]
  omega

/-- The parts of a number are read one after the other: the sign, the digits before and after the
point and the exponent. -/
theorem readNumber_signed (negative : Bool) {t t₂ t₃ rest : Text} {whole fraction : List Nat}
    {exponent : Option Int} (hsign : ∀ c ∈ t.head?, c ≠ .scalar '-')
    (hwhole : readWhole? t = some (whole, t₂)) (hfraction : readFraction t₂ = (fraction, t₃))
    (hexponent : readExponent t₃ = (exponent, rest)) :
    (fraction = [] ∧ exponent = none → ∀ n, DigitLimit.numberOf whole = .ok n →
      readNumber (Binary64.signed negative t) = .ok (.int (Text.signedInt negative n), rest)) ∧
    (fraction ≠ [] ∨ exponent ≠ none → readNumber (Binary64.signed negative t) =
      .ok (.float (Numeral.toBinary64 ⟨negative, whole, fraction, exponent.getD 0⟩), rest)) := by
  unfold readNumber
  split
  next negative' t' heq =>
    obtain ⟨rfl, rfl⟩ : negative = negative' ∧ t = t' := by
      split at heq
      · next heq' =>
        cases negative with
        | true =>
          cases heq'
          cases heq
          exact ⟨rfl, rfl⟩
        | false =>
          cases heq'
          exact absurd rfl (hsign _ rfl)
      · next hno =>
        cases negative with
        | true => exact absurd rfl (hno _)
        | false =>
          cases heq
          exact ⟨rfl, rfl⟩
    rw [hwhole]
    dsimp only
    rw [hfraction]
    dsimp only
    rw [hexponent]
    constructor
    · rintro ⟨rfl, rfl⟩ n hn
      dsimp only
      rw [hn]
      rfl
    · intro h
      refine if_neg ?_
      simpa using fun hf ↦ h.resolve_left (not_not.mpr hf)

/-- An integer is a sign or none and the digits of its magnitude. -/
theorem ofInt_eq (n : Int) :
    Text.ofInt n = Binary64.signed (n < 0) ((Nat.toDigits 10 n.natAbs).map CodePoint.scalar) := by
  cases n with
  | ofNat n => exact Text.ofNat_eq n
  | negSucc n =>
    rw [decide_eq_true (Int.negSucc_lt_zero n)]
    exact congrArg (Binary64.signed true) (Text.ofNat_eq (n + 1))

/-- An integer in decimal digits is read back, unless it has more digits than are converted. -/
theorem readNumber_ofInt {n : Int} (hn : n.natAbs < Nat.pow 10 DigitLimit.limit)
    (hrest : EndsNumber rest) : readNumber (Text.ofInt n ++ rest) = .ok (.int n, rest) := by
  have hnumber := Text.numberOf_toDigits n.natAbs
  rw [if_pos hn] at hnumber
  have hread := (readNumber_signed (n < 0) (isWhole_toDigits n.natAbs).head_ne_minus
    (readWhole?_append (isWhole_toDigits n.natAbs) hrest.digit) (readFraction_of_ends hrest.point)
    (readExponent_of_ends hrest.exponent)).1 ⟨rfl, rfl⟩ n.natAbs hnumber
  rwa [signedInt_natAbs, ← signed_append, ← ofInt_eq] at hread

/-- A numeral with a point or an exponent is read as the number nearest to it. -/
theorem readNumber_numeralText {negative : Bool} {e : Option Int} (hws : IsWhole ws)
    (hfs : ∀ c ∈ fs, c.isDigit = true) (hne : fs ≠ [] ∨ e ≠ none) (hrest : EndsNumber rest) :
    readNumber (Binary64.signed negative (numeralText ws fs e) ++ rest) =
      .ok (.float (Numeral.toBinary64 ⟨negative, ws.map (·.toNat - 48), fs.map (·.toNat - 48),
        e.getD 0⟩), rest) := by
  have hexponent : readExponent (e.elim [] Binary64.exponentText ++ rest) = (e, rest) := by
    cases e with
    | none => exact readExponent_of_ends hrest.exponent
    | some e => exact readExponent_exponentText e hrest.digit
  have hends : ∀ c ∈ (e.elim [] Binary64.exponentText ++ rest).head?,
      CodePoint.asciiDigit? c = none ∧ c ≠ .scalar '.' := by
    cases e with
    | none => exact fun c hc ↦ ⟨hrest.digit c hc, hrest.point c hc⟩
    | some e =>
      rintro c ⟨⟩
      exact ⟨rfl, by decide⟩
  rw [signed_append, numeralText, List.append_assoc, List.append_assoc]
  refine (readNumber_signed negative hws.head_ne_minus (readWhole?_append hws ?_)
    (readFraction_append hfs hends) hexponent).2 (hne.imp_left (by simp))
  cases fs with
  | nil => exact fun c hc ↦ (hends c hc).1
  | cons f fs =>
    rintro c ⟨⟩
    rfl

/-! ## Floating-point numbers -/

/-- A text is a numeral with a point or an exponent, and its value is that of a decimal. -/
structure Writes (x : Decimal) (t : Text) (ws fs : List Char) (e : Option Int) : Prop where
  text : t = numeralText ws fs e
  whole : IsWhole ws
  fraction : ∀ c ∈ fs, c.isDigit = true
  marked : fs ≠ [] ∨ e ≠ none
  value : Decimal.value ⟨Nat.ofDigitChars 10 (ws ++ fs) 0, e.getD 0 - fs.length⟩ = x.value

section Layout

open Binary64 (positional scientific)

variable {c : Nat} {e lead : Int}

theorem isDigit_zeros (k : Nat) : ∀ c ∈ List.replicate k '0', c.isDigit = true := by
  intro c hc
  rw [(List.mem_replicate.mp hc).2]
  rfl

/-- The digits of a positive number can stand before a point, with others after them. -/
theorem isWhole_of_prefix (hc : 0 < c) {ws : List Char} (hne : ws ≠ [])
    (hdigits : ∀ d ∈ ws, d.isDigit = true) (hhead : ws.head? = (Nat.toDigits 10 c).head?) :
    IsWhole ws where
  isDigit := hdigits
  ne_nil := hne
  leads := .inr (hhead ▸ Text.toDigits_head_pos hc)

/-- Zeros stand between the point and the digits. -/
theorem writes_below_point (hlead : lead = e + (Nat.toDigits 10 c).length - 1) (h : lead + 1 ≤ 0) :
    Writes ⟨c, e⟩ (positional (Text.ofNat c) (lead + 1)) ['0']
      (List.replicate (-(lead + 1)).toNat '0' ++ Nat.toDigits 10 c) none where
  text := by
    rw [positional, if_pos h, Text.ofNat_eq, numeralText,
      fractionText_of_ne_nil (by simp [Nat.toDigits_ne_nil]), List.map_append, List.map_replicate,
      Option.elim_none, List.append_nil, List.append_assoc]
    rfl
  whole := isWhole_zero
  fraction := List.forall_mem_append.mpr ⟨isDigit_zeros _, Text.isDigit_of_mem_toDigits c⟩
  marked := .inl (by simp [Nat.toDigits_ne_nil])
  value := by
    have hnumber : Nat.ofDigitChars 10 (['0'] ++ (List.replicate (-(lead + 1)).toNat '0' ++
        Nat.toDigits 10 c)) 0 = c := by
      rw [Nat.ofDigitChars_append, Nat.ofDigitChars_append, Nat.ofDigitChars_replicate_zero]
      exact Nat.ofDigitChars_ten_toDigits
    rw [hnumber]
    congr 2
    rw [List.length_append, List.length_replicate, Option.getD_none]
    omega

/-- Zeros stand between the digits and the point. -/
theorem writes_above_point (hc : 0 < c) (hlead : lead = e + (Nat.toDigits 10 c).length - 1)
    (h : 0 ≤ e) :
    Writes ⟨c, e⟩ (positional (Text.ofNat c) (lead + 1))
      (Nat.toDigits 10 c ++ List.replicate e.toNat '0') ['0'] none where
  text := by
    have hpos : 0 < (Nat.toDigits 10 c).length := Binary64.decimalLength_pos c
    have hlength : (Nat.toDigits 10 c).length ≤ (lead + 1).toNat := by omega
    have hzeros : (lead + 1).toNat - (Nat.toDigits 10 c).length = e.toNat := by omega
    rw [positional, if_neg (by omega), Text.ofNat_eq]
    dsimp only
    rw [List.length_map, if_pos hlength, hzeros, numeralText, List.map_append, List.map_replicate]
    rfl
  whole := by
    refine isWhole_of_prefix hc (by simp [Nat.toDigits_ne_nil]) ?_ ?_
    · exact List.forall_mem_append.mpr ⟨Text.isDigit_of_mem_toDigits c, isDigit_zeros _⟩
    · exact List.head?_append_of_ne_nil _ Nat.toDigits_ne_nil
  fraction := isWhole_zero.isDigit
  marked := .inl isWhole_zero.ne_nil
  value := by
    have hnumber : Nat.ofDigitChars 10
        (Nat.toDigits 10 c ++ List.replicate e.toNat '0' ++ ['0']) 0 = 10 * (10 ^ e.toNat * c) := by
      rw [Nat.ofDigitChars_append, Nat.ofDigitChars_append, Nat.ofDigitChars_ten_toDigits,
        Nat.ofDigitChars_replicate_zero]
      rfl
    obtain ⟨n, rfl⟩ := Int.eq_ofNat_of_zero_le h
    rw [hnumber]
    simp [Decimal.value]
    ring

/-- The point stands between the digits. -/
theorem writes_among_point (hc : 0 < c) (hlead : lead = e + (Nat.toDigits 10 c).length - 1)
    (h : 0 < lead + 1) (he : e < 0) :
    Writes ⟨c, e⟩ (positional (Text.ofNat c) (lead + 1))
      ((Nat.toDigits 10 c).take (lead + 1).toNat) ((Nat.toDigits 10 c).drop (lead + 1).toNat)
      none where
  text := by
    rw [positional, if_neg (by omega), Text.ofNat_eq]
    dsimp only
    rw [List.length_map, if_neg (by omega), numeralText, fractionText_of_ne_nil, List.map_take,
      List.map_drop]
    · simp
    · simp
      omega
  whole := by
    refine isWhole_of_prefix hc ?_ (fun d hd ↦ ?_) ?_
    · simp [Nat.toDigits_ne_nil]
      omega
    · exact Text.isDigit_of_mem_toDigits c d (List.mem_of_mem_take hd)
    · rw [List.head?_take, if_neg (by omega)]
  fraction d hd := Text.isDigit_of_mem_toDigits c d (List.mem_of_mem_drop hd)
  marked := .inl (by simp; omega)
  value := by
    rw [List.take_append_drop, Nat.ofDigitChars_ten_toDigits, List.length_drop, Option.getD_none]
    congr 2
    omega

/-- One digit stands before the point, and the rest between the point and an exponent. -/
theorem writes_scientific (hlead : lead = e + (Nat.toDigits 10 c).length - 1) :
    Writes ⟨c, e⟩ (scientific (Text.ofNat c) lead)
      ((Nat.toDigits 10 c).take 1) ((Nat.toDigits 10 c).drop 1) (some lead) where
  text := by
    unfold scientific
    rw [Text.ofNat_eq, numeralText]
    cases hdigits : Nat.toDigits 10 c with
    | nil => exact absurd hdigits Nat.toDigits_ne_nil
    | cons d more =>
      cases more with
      | nil => rfl
      | cons d' more =>
        rw [List.drop_one, List.tail_cons, fractionText_of_ne_nil (List.cons_ne_nil d' more)]
        rfl
  whole := by
    refine ⟨fun d hd ↦ Text.isDigit_of_mem_toDigits c d (List.mem_of_mem_take hd), ?_, .inl ?_⟩
    · simp [Nat.toDigits_ne_nil]
    · have hpos : 0 < (Nat.toDigits 10 c).length := Binary64.decimalLength_pos c
      rw [List.length_take]
      omega
  fraction d hd := Text.isDigit_of_mem_toDigits c d (List.mem_of_mem_drop hd)
  marked := .inr (by simp)
  value := by
    have hpos : 0 < (Nat.toDigits 10 c).length := Binary64.decimalLength_pos c
    rw [List.take_append_drop, Nat.ofDigitChars_ten_toDigits, List.length_drop, Option.getD_some]
    congr 2
    omega

/-- What is written for a magnitude has the value of its shortest decimal. -/
theorem exists_writes (rank : Nat) :
    ∃ ws fs e, Writes (Binary64.shortest rank) (Binary64.magnitudeText rank) ws fs e := by
  rcases Nat.eq_zero_or_pos rank with rfl | hr
  · refine ⟨['0'], ['0'], none, rfl, isWhole_zero, isWhole_zero.isDigit,
      .inl isWhole_zero.ne_nil, ?_⟩
    simp [Decimal.value, Binary64.shortest]
    rfl
  have hc := Binary64.shortest_coefficient_pos hr
  have hlength : (Text.ofNat (Binary64.shortest rank).coefficient).length =
      (Nat.toDigits 10 (Binary64.shortest rank).coefficient).length := by
    rw [Text.ofNat_eq, List.length_map]
  unfold Binary64.magnitudeText
  dsimp only
  rw [hlength]
  split
  · exact ⟨_, _, _, writes_scientific rfl⟩
  · rcases Int.lt_or_le 0 ((Binary64.shortest rank).exponent +
        (Nat.toDigits 10 (Binary64.shortest rank).coefficient).length - 1 + 1) with h | h
    · rcases Int.lt_or_le (Binary64.shortest rank).exponent 0 with he | he
      · exact ⟨_, _, _, writes_among_point hc rfl h he⟩
      · exact ⟨_, _, _, writes_above_point hc rfl he⟩
    · exact ⟨_, _, _, writes_below_point rfl h⟩

/-- A finite number is read back from its text. -/
theorem readNumber_magnitudeText (negative : Bool) (rank : Fin (2047 * Nat.pow 2 52))
    (hrest : EndsNumber rest) :
    readNumber (Binary64.signed negative (Binary64.magnitudeText rank) ++ rest) =
      .ok (.float (.finite negative rank), rest) := by
  obtain ⟨ws, fs, e, h⟩ := exists_writes rank
  rw [h.text, readNumber_numeralText h.whole h.fraction h.marked hrest, Numeral.toBinary64,
    ← List.map_append, Text.numberOf_digits, List.length_map,
    Binary64.ofDecimal_of_value_eq negative h.value]

end Layout

end Json

end ScriptDefs
