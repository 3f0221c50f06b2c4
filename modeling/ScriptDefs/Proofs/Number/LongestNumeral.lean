import ScriptDefs.Proofs.Number.LeadingInteger

/-!
# The longest numeral at the start of a text

A numeral is a sign or none, digits with a point among, after or before them, and an exponent or
none. Of the beginnings of a text that are numerals the longest one is read: what is read is a
numeral, and it goes to the end of every numeral that the text starts with. So an exponent that is not
complete is left out, and a sign or a point alone is no numeral.
-/

namespace ScriptDefs

/-! ## Numerals -/

/-- A text is made of digits with these values, of whatever scripts. -/
abbrev SpellsDigits (ds : List Nat) (t : Text) : Prop :=
  List.Forall₂ (fun c d ↦ CodePoint.digit? c = some d) t ds

/-- A text is a sign, or nothing; the sign says whether the number is negative. -/
inductive SpellsSign : Bool → Text → Prop
  | none : SpellsSign false []
  | plus : SpellsSign false [.scalar '+']
  | minus : SpellsSign true [.scalar '-']

/-- A text is made of the digits before and after a point, of which there is one at least. -/
inductive SpellsMantissa : List Nat → List Nat → Text → Prop
  | whole {ds : List Nat} {t : Text} (hds : SpellsDigits ds t) (hne : ds ≠ []) :
      SpellsMantissa ds [] t
  | point {ds fs : List Nat} {t u : Text} (hds : SpellsDigits ds t) (hne : ds ≠ [])
      (hfs : SpellsDigits fs u) : SpellsMantissa ds fs (t ++ .scalar '.' :: u)
  | bare {fs : List Nat} {u : Text} (hfs : SpellsDigits fs u) (hne : fs ≠ []) :
      SpellsMantissa [] fs (.scalar '.' :: u)

/-- A text is a complete exponent, or nothing. -/
inductive SpellsExponent : Int → Text → Prop
  | none : SpellsExponent 0 []
  | mark {e : Char} {negative : Bool} {ds : List Nat} {s t : Text} (he : e = 'e' ∨ e = 'E')
      (hs : SpellsSign negative s) (hds : SpellsDigits ds t) (hne : ds ≠ []) :
      SpellsExponent (Text.signedInt negative (Text.numberOf 10 ds)) (.scalar e :: (s ++ t))

namespace Numeral

/-- A text is a way to write a numeral. -/
def Spells (x : Numeral) (p : Text) : Prop :=
  ∃ s m e, SpellsSign x.negative s ∧ SpellsMantissa x.whole x.fraction m ∧
    SpellsExponent x.exponent e ∧ p = s ++ (m ++ e)

end Numeral

namespace Text

/-- A text starts with a way to write a numeral, and with no longer way to write any. -/
structure LongestNumeral (t p : Text) (x : Numeral) : Prop where
  starts : p <+: t
  spells : x.Spells p
  longest : ∀ q y, q <+: t → Numeral.Spells y q → q.length ≤ p.length

/-- A text ends in a digit, or in a point right after a digit. -/
def EndsInDigit (p : Text) : Prop :=
  ∃ (t : Text) (c : CodePoint), c.isDigit = true ∧ (p = t ++ [c] ∨ p = t ++ [c, .scalar '.'])

variable {t tail : Text}

/-! ## Runs of digits -/

theorem spanDigits_sound (t : Text) :
    ∃ p, t = p ++ (spanDigits CodePoint.digit? t).2 ∧
      SpellsDigits (spanDigits CodePoint.digit? t).1 p := by
  induction t with
  | nil => exact ⟨[], rfl, .nil⟩
  | cons c t ih =>
    obtain ⟨p, ht, hp⟩ := ih
    rw [spanDigits]
    cases hc : c.digit? with
    | none => exact ⟨[], rfl, .nil⟩
    | some d => exact ⟨c :: p, congrArg _ ht, .cons hc hp⟩

theorem length_spanDigits_le (t : Text) :
    (spanDigits CodePoint.digit? t).2.length ≤ t.length := by
  obtain ⟨p, ht, -⟩ := spanDigits_sound t
  have hlength := congrArg List.length ht
  rw [List.length_append] at hlength
  omega

/-! ## Signs -/

theorem takeSign_sound (t : Text) : ∃ s, t = s ++ (takeSign t).2 ∧ SpellsSign (takeSign t).1 s := by
  unfold takeSign
  split
  · exact ⟨[.scalar '-'], rfl, .minus⟩
  · exact ⟨[.scalar '+'], rfl, .plus⟩
  · exact ⟨[], rfl, .none⟩

/-- A text without a sign in front. -/
def HasNoSign (t : Text) : Prop := ∀ c ∈ t.head?, c ≠ .scalar '+' ∧ c ≠ .scalar '-'

theorem takeSign_of_hasNoSign (h : t.HasNoSign) : takeSign t = (false, t) := by
  unfold takeSign
  split
  · exact absurd rfl (h _ rfl).2
  · exact absurd rfl (h _ rfl).1
  · rfl

theorem takeSign_spelled {negative : Bool} {s : Text} (hs : SpellsSign negative s)
    (h : t.HasNoSign) : takeSign (s ++ t) = (negative, t) := by
  cases hs with
  | none => exact takeSign_of_hasNoSign h
  | plus => rfl
  | minus => rfl

theorem hasNoSign_of_digits {ds : List Nat} (h : SpellsDigits ds t) (hne : ds ≠ []) (tail : Text) :
    HasNoSign (t ++ tail) := by
  cases h with
  | nil => exact absurd rfl hne
  | cons hc _ =>
    have hplus : CodePoint.digit? (.scalar '+') = none := by decide
    have hminus : CodePoint.digit? (.scalar '-') = none := by decide
    rintro _ ⟨⟩
    constructor
    · rintro rfl
      cases hplus.symm.trans hc
    · rintro rfl
      cases hminus.symm.trans hc

theorem hasNoSign_of_mantissa {ds fs : List Nat} {m : Text} (h : SpellsMantissa ds fs m)
    (tail : Text) : HasNoSign (m ++ tail) := by
  cases h with
  | whole hds hne => exact hasNoSign_of_digits hds hne tail
  | point hds hne hfs =>
    rw [List.append_assoc]
    exact hasNoSign_of_digits hds hne _
  | bare hfs hne =>
    rintro _ ⟨⟩
    decide

/-! ## Mantissas -/

/-- The digits before and after a point at the start of a text, and the rest. -/
def leadingMantissa (t : Text) : List Nat × List Nat × Text :=
  let (whole, t₁) := spanDigits CodePoint.digit? t
  let (fraction, t₂) := leadingFraction CodePoint.digit? t₁
  (whole, fraction, t₂)

theorem length_leadingFraction_le (t : Text) :
    (leadingFraction CodePoint.digit? t).2.length ≤ t.length := by
  unfold leadingFraction
  split
  · exact (length_spanDigits_le _).trans (Nat.le_succ _)
  · exact Nat.le_refl _

theorem leadingFraction_of_head (h : ∀ c ∈ t.head?, c ≠ .scalar '.') :
    leadingFraction CodePoint.digit? t = ([], t) := by
  unfold leadingFraction
  split
  · exact absurd rfl (h _ rfl)
  · rfl

/-- What is read is a mantissa, unless there is no digit. -/
theorem leadingMantissa_sound
    (h : ¬ ((leadingMantissa t).1 = [] ∧ (leadingMantissa t).2.1 = [])) :
    ∃ m, t = m ++ (leadingMantissa t).2.2 ∧
      SpellsMantissa (leadingMantissa t).1 (leadingMantissa t).2.1 m := by
  obtain ⟨p, ht, hp⟩ := spanDigits_sound t
  unfold leadingMantissa at *
  dsimp only at *
  generalize spanDigits CodePoint.digit? t = r at *
  obtain ⟨whole, t₁⟩ := r
  dsimp only at *
  unfold leadingFraction at *
  split at h
  · next t₂ =>
    obtain ⟨q, ht₂, hq⟩ := spanDigits_sound t₂
    refine ⟨p ++ .scalar '.' :: q, ?_, ?_⟩
    · rw [ht, List.append_assoc, List.cons_append, ← ht₂]
    · by_cases hwhole : whole = []
      · subst hwhole
        cases hp
        exact .bare hq fun hf ↦ h ⟨rfl, hf⟩
      · exact .point hp hwhole hq
  · exact ⟨p, ht, .whole hp fun hwhole ↦ h ⟨hwhole, rfl⟩⟩

/-- A mantissa is read to its end at least, and to its end alone if neither a digit nor a point
follows. -/
theorem leadingMantissa_spelled {ds fs : List Nat} {m : Text} (h : SpellsMantissa ds fs m)
    (tail : Text) :
    ¬ ((leadingMantissa (m ++ tail)).1 = [] ∧ (leadingMantissa (m ++ tail)).2.1 = []) ∧
      (leadingMantissa (m ++ tail)).2.2.length ≤ tail.length ∧
      ((∀ c ∈ tail.head?, CodePoint.digit? c = none ∧ c ≠ .scalar '.') →
        leadingMantissa (m ++ tail) = (ds, fs, tail)) := by
  have hpoint (u : Text) :
      spanDigits CodePoint.digit? (.scalar '.' :: u) = ([], .scalar '.' :: u) :=
    spanDigits_of_head (by rintro _ ⟨⟩; decide)
  cases h with
  | whole hds hne =>
    rw [leadingMantissa, spanDigits_spelled hds]
    refine ⟨fun hempty ↦ hne (List.append_eq_nil_iff.mp hempty.1).1,
      (length_leadingFraction_le _).trans (length_spanDigits_le tail), fun hhead ↦ ?_⟩
    rw [spanDigits_of_head fun c hc ↦ (hhead c hc).1]
    dsimp only
    rw [leadingFraction_of_head fun c hc ↦ (hhead c hc).2, List.append_nil]
  | @point _ _ _ u hds hne hfs =>
    have hread : leadingFraction CodePoint.digit? (.scalar '.' :: (u ++ tail)) = _ :=
      spanDigits_spelled hfs tail
    rw [List.append_assoc, leadingMantissa, spanDigits_spelled hds, List.cons_append, hpoint]
    dsimp only
    rw [hread, List.append_nil]
    refine ⟨fun hempty ↦ hne hempty.1, length_spanDigits_le tail, fun hhead ↦ ?_⟩
    rw [spanDigits_of_head fun c hc ↦ (hhead c hc).1, List.append_nil]
  | @bare _ u hfs hne =>
    have hread : leadingFraction CodePoint.digit? (.scalar '.' :: (u ++ tail)) = _ :=
      spanDigits_spelled hfs tail
    rw [List.cons_append, leadingMantissa, hpoint]
    dsimp only
    rw [hread]
    refine ⟨fun hempty ↦ hne (List.append_eq_nil_iff.mp hempty.2).1, length_spanDigits_le tail,
      fun hhead ↦ ?_⟩
    rw [spanDigits_of_head fun c hc ↦ (hhead c hc).1, List.append_nil]

/-! ## Exponents -/

theorem leadingExponent_mark {e : Char} (he : e = 'e' ∨ e = 'E') (t : Text) :
    leadingExponent CodePoint.digit? (.scalar e :: t) =
      if (spanDigits CodePoint.digit? (takeSign t).2).1 = [] then (0, .scalar e :: t)
      else
        (signedInt (takeSign t).1 (numberOf 10 (spanDigits CodePoint.digit? (takeSign t).2).1),
          (spanDigits CodePoint.digit? (takeSign t).2).2) := by
  rw [leadingExponent, if_pos he]
  dsimp only
  split
  · next heq => rw [heq, if_pos rfl]
  · next hne heq =>
    rw [heq, if_neg hne]

/-- What is read is an exponent, or nothing is. -/
theorem leadingExponent_sound (t : Text) :
    ∃ e, t = e ++ (leadingExponent CodePoint.digit? t).2 ∧
      SpellsExponent (leadingExponent CodePoint.digit? t).1 e := by
  have hnone : leadingExponent CodePoint.digit? t = (0, t) →
      ∃ e, t = e ++ (leadingExponent CodePoint.digit? t).2 ∧
        SpellsExponent (leadingExponent CodePoint.digit? t).1 e := fun h ↦ by
    rw [h]
    exact ⟨[], rfl, .none⟩
  rcases t with _ | ⟨c | c, t⟩
  · exact hnone rfl
  · by_cases hc : c = 'e' ∨ c = 'E'
    · by_cases hds : (spanDigits CodePoint.digit? (takeSign t).2).1 = []
      · exact hnone (by rw [leadingExponent_mark hc, if_pos hds])
      · obtain ⟨s, ht, hs⟩ := takeSign_sound t
        obtain ⟨p, hp, hspells⟩ := spanDigits_sound (takeSign t).2
        rw [leadingExponent_mark hc, if_neg hds]
        refine ⟨.scalar c :: (s ++ p), ?_, .mark hc hs hspells hds⟩
        rw [List.cons_append, List.append_assoc, ← hp, ← ht]
    · exact hnone (by rw [leadingExponent, if_neg hc])
  · exact hnone rfl

theorem length_leadingExponent_le (t : Text) :
    (leadingExponent CodePoint.digit? t).2.length ≤ t.length := by
  obtain ⟨e, ht, -⟩ := leadingExponent_sound t
  have hlength := congrArg List.length ht
  rw [List.length_append] at hlength
  omega

/-- An exponent is read to its end at least, and is what is read where nothing follows. -/
theorem leadingExponent_spelled {n : Int} {e : Text} (h : SpellsExponent n e) (tail : Text) :
    (leadingExponent CodePoint.digit? (e ++ tail)).2.length ≤ tail.length ∧
      (tail = [] → leadingExponent CodePoint.digit? (e ++ tail) = (n, [])) := by
  cases h with
  | none => exact ⟨length_leadingExponent_le tail, by rintro rfl; rfl⟩
  | mark he hs hds hne =>
    have hsign := takeSign_spelled hs (hasNoSign_of_digits hds hne tail)
    rw [List.cons_append, List.append_assoc, leadingExponent_mark he, hsign]
    dsimp only
    rw [spanDigits_spelled hds, if_neg fun hempty ↦ hne (List.append_eq_nil_iff.mp hempty).1]
    refine ⟨length_spanDigits_le tail, ?_⟩
    rintro rfl
    rw [spanDigits, List.append_nil]

/-- Neither a digit nor a point starts an exponent. -/
theorem head_of_mark {n : Int} {e : Text} (h : SpellsExponent n e) (hne : e ≠ []) (tail : Text) :
    ∀ c ∈ (e ++ tail).head?, CodePoint.digit? c = none ∧ c ≠ .scalar '.' := by
  cases h with
  | none => exact absurd rfl hne
  | mark he _ _ _ =>
    rintro _ ⟨⟩
    rcases he with rfl | rfl <;> decide

/-! ## The longest numeral -/

theorem leadingNumeral?_eq (t : Text) :
    leadingNumeral? CodePoint.digit? t =
      if (leadingMantissa (takeSign t).2).1 = [] ∧ (leadingMantissa (takeSign t).2).2.1 = [] then
        none
      else
        some (⟨(takeSign t).1, (leadingMantissa (takeSign t).2).1,
            (leadingMantissa (takeSign t).2).2.1,
            (leadingExponent CodePoint.digit? (leadingMantissa (takeSign t).2).2.2).1⟩,
          (leadingExponent CodePoint.digit? (leadingMantissa (takeSign t).2).2.2).2) := by
  simp only [← List.isEmpty_iff]
  rfl

/-- What is read is a numeral at the start of the text. -/
theorem leadingNumeral?_sound {x : Numeral} {rest : Text}
    (h : leadingNumeral? CodePoint.digit? t = some (x, rest)) :
    ∃ p, t = p ++ rest ∧ x.Spells p := by
  rw [leadingNumeral?_eq] at h
  split at h
  · cases h
  · next hdigits =>
    obtain ⟨rfl, rfl⟩ := Prod.ext_iff.mp (Option.some.inj h)
    obtain ⟨s, ht, hs⟩ := takeSign_sound t
    obtain ⟨m, hm, hmantissa⟩ := leadingMantissa_sound hdigits
    obtain ⟨e, he, hexponent⟩ := leadingExponent_sound (leadingMantissa (takeSign t).2).2.2
    refine ⟨s ++ (m ++ e), ?_, s, m, e, hs, hmantissa, hexponent, rfl⟩
    rw [List.append_assoc, List.append_assoc, ← he, ← hm, ← ht]

/-- A numeral at the start of a text is read to its end at least, and is what is read where nothing
follows. -/
theorem leadingNumeral?_spelled {y : Numeral} {q : Text} (h : y.Spells q) (tail : Text) :
    ∃ x rest, leadingNumeral? CodePoint.digit? (q ++ tail) = some (x, rest) ∧
      rest.length ≤ tail.length ∧ (tail = [] → x = y) := by
  obtain ⟨s, m, e, hs, hm, he, rfl⟩ := h
  have hsign := takeSign_spelled hs (hasNoSign_of_mantissa hm (e ++ tail))
  obtain ⟨hdigits, hlength, hexact⟩ := leadingMantissa_spelled hm (e ++ tail)
  obtain ⟨hlength', hexact'⟩ := leadingExponent_spelled he tail
  rw [List.append_assoc, List.append_assoc, leadingNumeral?_eq, hsign]
  dsimp only
  rw [if_neg hdigits]
  refine ⟨_, _, rfl, ?_, ?_⟩
  · by_cases hnone : e = []
    · subst hnone
      exact (length_leadingExponent_le _).trans hlength
    · rw [hexact (head_of_mark he hnone tail)]
      exact hlength'
  · rintro rfl
    have hhead : ∀ c ∈ (e ++ []).head?, CodePoint.digit? c = none ∧ c ≠ .scalar '.' := by
      by_cases hnone : e = []
      · subst hnone
        exact fun _ hc ↦ nomatch hc
      · exact head_of_mark he hnone []
    rw [hexact hhead]
    dsimp only
    rw [hexact' rfl]

/-- A text is a way to write one numeral at most. -/
theorem spells_unique {x y : Numeral} {p : Text} (hx : x.Spells p) (hy : y.Spells p) : x = y := by
  obtain ⟨x', _, hread, -, hx'⟩ := leadingNumeral?_spelled hx []
  obtain ⟨y', _, hread', -, hy'⟩ := leadingNumeral?_spelled hy []
  rw [hread] at hread'
  obtain ⟨heq, -⟩ := Prod.ext_iff.mp (Option.some.inj hread')
  exact (hx' rfl).symm.trans (heq.trans (hy' rfl))

theorem longest_of_leadingNumeral? {x : Numeral} {rest : Text}
    (h : leadingNumeral? CodePoint.digit? t = some (x, rest)) :
    ∃ p, t = p ++ rest ∧ LongestNumeral t p x := by
  obtain ⟨p, rfl, hp⟩ := leadingNumeral?_sound h
  refine ⟨p, rfl, List.prefix_append p rest, hp, fun q y ⟨tail, hq⟩ hy ↦ ?_⟩
  obtain ⟨_, _, hread, hlength, -⟩ := leadingNumeral?_spelled hy tail
  rw [hq, h] at hread
  obtain ⟨-, rfl⟩ := Prod.ext_iff.mp (Option.some.inj hread)
  have hlengths := congrArg List.length hq
  rw [List.length_append, List.length_append] at hlengths
  dsimp only at hlength
  omega

theorem LongestNumeral.unique {p q : Text} {x y : Numeral} (hp : LongestNumeral t p x)
    (hq : LongestNumeral t q y) : p = q ∧ x = y := by
  have hpq := hq.longest p x hp.starts hp.spells
  have hqp := hp.longest q y hq.starts hq.spells
  obtain rfl : p = q :=
    (List.prefix_of_prefix_length_le hp.starts hq.starts hpq).eq_of_length_le hqp
  exact ⟨rfl, spells_unique hp.spells hq.spells⟩

/-- The longest numeral is read, if any beginning of the text is a numeral. -/
theorem leadingNumeral?_longest (t : Text) :
    (leadingNumeral? CodePoint.digit? t = none ∧ ∀ p x, p <+: t → ¬ Numeral.Spells x p) ∨
      ∃ p x rest, leadingNumeral? CodePoint.digit? t = some (x, rest) ∧ LongestNumeral t p x := by
  cases hread : leadingNumeral? CodePoint.digit? t with
  | none =>
    refine .inl ⟨rfl, fun p x ⟨tail, hp⟩ hx ↦ ?_⟩
    obtain ⟨_, _, hsome, -⟩ := leadingNumeral?_spelled hx tail
    rw [hp, hread] at hsome
    cases hsome
  | some r =>
    obtain ⟨p, -, hp⟩ := longest_of_leadingNumeral? hread
    exact .inr ⟨p, r.1, r.2, rfl, hp⟩

example : leadingNumeral? CodePoint.digit? (ofString "-.5e+x") =
    some (⟨true, [], [5], 0⟩, ofString "e+x") := by decide

/-! ## Where numerals end -/

theorem isDigit_of_spells {ds : List Nat} (h : SpellsDigits ds t) : ∀ c ∈ t, c.isDigit = true := by
  induction h with
  | nil => exact fun _ hc ↦ nomatch hc
  | cons hc _ ih => exact List.forall_mem_cons.mpr ⟨Option.isSome_of_eq_some hc, ih⟩

theorem exists_last_digit {ds : List Nat} (h : SpellsDigits ds t) (hne : ds ≠ []) :
    ∃ (u : Text) (c : CodePoint), c.isDigit = true ∧ t = u ++ [c] := by
  have hne' : t ≠ [] := by
    rintro rfl
    cases h
    exact hne rfl
  exact ⟨t.dropLast, t.getLast hne', isDigit_of_spells h _ (List.getLast_mem hne'),
    (List.dropLast_append_getLast hne').symm⟩

theorem endsInDigit_of_digits {ds : List Nat} (h : SpellsDigits ds t) (hne : ds ≠ []) (s : Text) :
    EndsInDigit (s ++ t) := by
  obtain ⟨u, c, hc, rfl⟩ := exists_last_digit h hne
  exact ⟨s ++ u, c, hc, .inl (List.append_assoc _ _ _).symm⟩

theorem endsInDigit_of_mantissa {ds fs : List Nat} {m : Text} (h : SpellsMantissa ds fs m)
    (s : Text) : EndsInDigit (s ++ m) := by
  cases h with
  | whole hds hne => exact endsInDigit_of_digits hds hne s
  | @point _ _ u v hds hne hfs =>
    by_cases hfraction : fs = []
    · subst hfraction
      cases hfs
      obtain ⟨w, c, hc, rfl⟩ := exists_last_digit hds hne
      exact ⟨s ++ w, c, hc, .inr (by simp)⟩
    · rw [List.append_cons, ← List.append_assoc]
      exact endsInDigit_of_digits hfs hfraction _
  | bare hfs hne =>
    rw [List.append_cons]
    exact endsInDigit_of_digits hfs hne _

/-- A numeral ends neither in a sign nor in the mark of an exponent, nor in a point without a digit
before it. -/
theorem endsInDigit_of_spells {x : Numeral} {p : Text} (h : x.Spells p) : p.EndsInDigit := by
  obtain ⟨s, m, e, -, hm, he, rfl⟩ := h
  generalize x.exponent = n at he
  cases he with
  | none =>
    rw [List.append_nil]
    exact endsInDigit_of_mantissa hm s
  | @mark c _ _ u v _ _ hds hne =>
    have hsplit : s ++ (m ++ .scalar c :: (u ++ v)) = (s ++ (m ++ .scalar c :: u)) ++ v := by simp
    rw [hsplit]
    exact endsInDigit_of_digits hds hne _

end Text

end ScriptDefs
