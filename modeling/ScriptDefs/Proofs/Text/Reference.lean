import Mathlib.Data.List.Forall2
import ScriptDefs.Proofs.Data.Json.Strings
import ScriptDefs.Proofs.Number.LeadingInteger
import ScriptDefs.Proofs.Text.Unwrap

/-!
# Character references

A code point can be written as itself, by the name of a reference, or by its number in decimal or
hexadecimal digits. However the code points of a text are written one after the other, decoding gives the
text back: what one reference stands for never becomes a part of another. A reference to a number that no
code point has stays as it is, wherever it stands; only a decimal number with more digits than are
converted is an error.
-/

namespace ScriptDefs.Text

/-! ## How code points are written -/

/-- Digits in a base, leading zeros or not, denote a number. -/
structure IsNumeral (value? : CodePoint → Option Nat) (base : Nat) (ds : Text) (n : Nat) :
    Prop where
  ne_nil : ds ≠ []
  isDigit : ∀ c ∈ ds, (value? c).isSome
  value : Nat.ofDigits base (ds.filterMap value?).reverse = n

/-- A reference to a number: decimal digits, as many as are converted, or hexadecimal digits after `x`
or `X`, as many as there are. -/
inductive RefersTo (n : Nat) : Text → Prop where
  | decimal {ds : Text} (h : IsNumeral CodePoint.asciiDigit? 10 ds n)
    (hlength : ds.length ≤ DigitLimit.limit) :
    RefersTo n (.scalar '&' :: .scalar '#' :: (ds ++ [.scalar ';']))
  | hexadecimal {x : Char} {ds : Text} (hx : x = 'x' ∨ x = 'X')
    (h : IsNumeral CodePoint.hexDigit? 16 ds n) :
    RefersTo n (.scalar '&' :: .scalar '#' :: .scalar x :: (ds ++ [.scalar ';']))

/-- A code point can be written as a text: itself unless it is an ampersand, a reference with its name
if it has one, or a reference to its number. -/
inductive Spells (c : CodePoint) : Text → Prop where
  | plain (h : c ≠ .scalar '&') : Spells c [c]
  | named {name : Text} {x : Char} (h : (name, x) ∈ namedReferences) (hc : c = .scalar x) :
    Spells c (.scalar '&' :: name)
  | numeric {t : Text} (h : RefersTo c.toNat t) : Spells c t

/-- A part of a text, and what it is decoded to: a way to write a code point, or a reference to a number
above those of all code points, which stays as it is. -/
inductive Decodes : Text → Text → Prop where
  | spelled {c : CodePoint} {t : Text} (h : Spells c t) : Decodes t [c]
  | outOfRange {n : Nat} {t : Text} (h : RefersTo n t) (hn : 0x10FFFF < n) : Decodes t t

/-! ## Steps of the decoder -/

theorem unescapeFrom_length (part t : Text) :
    unescapeFrom part.length (part ++ t) = unescape t := by
  induction part with
  | nil => rfl
  | cons c part ih => exact ih

theorem unescape_cons {c : CodePoint} (h : c ≠ .scalar '&') (t : Text) :
    unescape (c :: t) = do return c :: (← unescape t) := by
  rw [unescape, unescapeFrom, if_neg h]
  rfl

/-- A reference is decoded as a whole. -/
theorem unescape_reference {body decoded t : Text}
    (h : reference? (body ++ t) = .ok (some (decoded, body.length))) :
    unescape (.scalar '&' :: (body ++ t)) = do return decoded ++ (← unescape t) := by
  rw [unescape, unescapeFrom, if_pos rfl, h, ok_bind]
  dsimp only
  rw [unescapeFrom_length]

theorem unescape_error {t : Text} {e : DigitLimit} (h : reference? t = .error e) :
    unescape (.scalar '&' :: t) = .error e := by
  rw [unescape, unescapeFrom, if_pos rfl, h]
  rfl

/-! ## References with a name -/

theorem reference?_named {name : Text} {x : Char} (h : (name, x) ∈ namedReferences) (t : Text) :
    reference? (name ++ t) = .ok (some ([.scalar x], name.length)) := by
  simp only [namedReferences, List.mem_cons, List.not_mem_nil, or_false, Prod.mk.injEq] at h
  rcases h with ⟨rfl, rfl⟩ | ⟨rfl, rfl⟩ | ⟨rfl, rfl⟩ | ⟨rfl, rfl⟩ | ⟨rfl, rfl⟩ <;> rfl

/-! ## References with a number -/

section Digits

variable {value? : CodePoint → Option Nat} {ds rest : Text}

theorem forall₂_filterMap_digits (hds : ∀ c ∈ ds, (value? c).isSome) :
    List.Forall₂ (fun c d ↦ value? c = some d) ds (ds.filterMap value?) := by
  induction ds with
  | nil => exact .nil
  | cons c ds ih =>
    obtain ⟨hc, hds⟩ := List.forall_mem_cons.mp hds
    obtain ⟨d, hd⟩ := Option.isSome_iff_exists.mp hc
    rw [List.filterMap_cons_some hd]
    exact .cons hd (ih hds)

/-- A run of digits is read up to what follows it. -/
theorem spanDigits_run (hds : ∀ c ∈ ds, (value? c).isSome)
    (hrest : ∀ c ∈ rest.head?, value? c = none) :
    spanDigits value? (ds ++ rest) = (ds.filterMap value?, rest) :=
  spanDigits_spelled_of_head (forall₂_filterMap_digits hds) hrest

/-- There are as many values as digits. -/
theorem length_filterMap_digits (hds : ∀ c ∈ ds, (value? c).isSome) :
    (ds.filterMap value?).length = ds.length :=
  (forall₂_filterMap_digits hds).length_eq.symm

end Digits

theorem asciiDigit?_cases {c : CodePoint} (h : (CodePoint.asciiDigit? c).isSome) :
    ∃ x : Char, c = .scalar x ∧ x ≠ 'x' ∧ x ≠ 'X' := by
  cases c with
  | scalar x =>
    refine ⟨x, rfl, ?_, ?_⟩
    · rintro rfl
      cases h
    · rintro rfl
      cases h
  | surrogate k =>
    have hbig : ¬ (0xD800 + k.val ≤ 0x39) := by omega
    simp [CodePoint.asciiDigit?, CodePoint.toNat, hbig] at h

/-- The digits between `#` and a semicolon are decimal. -/
theorem numericReference?_decimal {ds : Text} (hne : ds ≠ [])
    (hds : ∀ c ∈ ds, (CodePoint.asciiDigit? c).isSome) (t : Text) :
    numericReference? (.scalar '#' :: (ds ++ .scalar ';' :: t)) =
      some (10, ds.filterMap CodePoint.asciiDigit?, t) := by
  have hspan : spanDigits CodePoint.asciiDigit? (ds ++ .scalar ';' :: t) =
      (ds.filterMap CodePoint.asciiDigit?, .scalar ';' :: t) :=
    spanDigits_run hds (by rintro _ ⟨⟩; rfl)
  obtain ⟨c, ds, rfl⟩ := List.exists_cons_of_ne_nil hne
  obtain ⟨hc, -⟩ := List.forall_mem_cons.mp hds
  obtain ⟨x, rfl, hx, hX⟩ := asciiDigit?_cases hc
  obtain ⟨d, hd⟩ := Option.isSome_iff_exists.mp hc
  rw [List.cons_append] at hspan ⊢
  rw [numericReference?, if_neg (not_or.mpr ⟨hx, hX⟩), hspan, List.filterMap_cons_some hd]
  rfl

/-- The digits between `x` and a semicolon are hexadecimal. -/
theorem numericReference?_hexadecimal {x : Char} (hx : x = 'x' ∨ x = 'X') {ds : Text}
    (hne : ds ≠ []) (hds : ∀ c ∈ ds, (CodePoint.hexDigit? c).isSome) (t : Text) :
    numericReference? (.scalar '#' :: .scalar x :: (ds ++ .scalar ';' :: t)) =
      some (16, ds.filterMap CodePoint.hexDigit?, t) := by
  have hspan : spanDigits CodePoint.hexDigit? (ds ++ .scalar ';' :: t) =
      (ds.filterMap CodePoint.hexDigit?, .scalar ';' :: t) :=
    spanDigits_run hds (by rintro _ ⟨⟩; rfl)
  obtain ⟨c, ds, rfl⟩ := List.exists_cons_of_ne_nil hne
  obtain ⟨d, hd⟩ := Option.isSome_iff_exists.mp (hds c List.mem_cons_self)
  rw [numericReference?, if_pos hx, hspan, List.filterMap_cons_some hd]
  rfl

/-- What a reference to a number is decoded to: the code point with this number, or else itself. -/
def referent (body : Text) (n : Nat) : Text :=
  match CodePoint.ofNat? n with
  | some c => [c]
  | none => .scalar '&' :: body

/-- The one named reference that is written with a number stands for the code point with this number,
so that every reference with `#` goes by its number. -/
theorem reference?_number {body t : Text} {base : Nat} {ds : List Nat}
    (hnumeric : numericReference? (.scalar '#' :: (body ++ t)) = some (base, ds, t)) :
    reference? (.scalar '#' :: (body ++ t)) = do
      let n ← if base = 16 then .ok (numberOf 16 ds) else DigitLimit.numberOf ds
      return some (referent (.scalar '#' :: body) n, body.length + 1) := by
  -- of the named references only this one begins with `#`
  by_cases happ : ofString "39;" <+: body ++ t
  · obtain ⟨after, hafter⟩ := happ
    rw [← hafter] at hnumeric ⊢
    cases hnumeric
    obtain rfl : body = ofString "39;" := List.append_cancel_right hafter.symm
    rfl
  · have hname : namedReferences.find? (fun r ↦ r.1.isPrefixOf (.scalar '#' :: (body ++ t))) = none := by
      rw [List.find?_eq_none]
      intro r hr hp
      rw [List.isPrefixOf_iff_prefix] at hp
      simp only [namedReferences, List.mem_cons, List.not_mem_nil, or_false] at hr
      rcases hr with rfl | rfl | rfl | rfl | rfl
      · cases (List.cons_prefix_cons.mp hp).1
      · cases (List.cons_prefix_cons.mp hp).1
      · cases (List.cons_prefix_cons.mp hp).1
      · cases (List.cons_prefix_cons.mp hp).1
      · exact happ (List.cons_prefix_cons.mp hp).2
    have hsize : (CodePoint.scalar '#' :: (body ++ t)).length - t.length = body.length + 1 := by
      simp
      omega
    have htake : (CodePoint.scalar '#' :: (body ++ t)).take (body.length + 1) =
        .scalar '#' :: body := by simp
    rw [reference?, hname, hnumeric]
    dsimp only
    rw [hsize, htake]
    by_cases hbase : base = 16
    · rw [if_pos hbase, if_pos hbase, ok_bind, ok_bind, referent]
      cases CodePoint.ofNat? (numberOf 16 ds) <;> rfl
    · rw [if_neg hbase, if_neg hbase]
      apply bind_congr
      intro n
      rw [referent]
      cases CodePoint.ofNat? n <;> rfl

/-- A reference to a number is decoded to the code point with this number, or stays as it is. -/
theorem RefersTo.unescape_append {n : Nat} {t : Text} (h : RefersTo n t) (rest : Text) :
    unescape (t ++ rest) = do return referent t.tail n ++ (← unescape rest) := by
  cases h with
  | @decimal ds h hlength =>
    have hnumeric := numericReference?_decimal h.ne_nil h.isDigit rest
    have hnumber : DigitLimit.numberOf (ds.filterMap CodePoint.asciiDigit?) = .ok n := by
      rw [DigitLimit.numberOf, length_filterMap_digits h.isDigit, if_neg (by omega),
        numberOf_eq_ofDigits, h.value]
    have hsplit : ds ++ .scalar ';' :: rest = ds ++ [.scalar ';'] ++ rest := by simp
    rw [hsplit] at hnumeric
    have hreference := reference?_number hnumeric
    rw [if_neg (by decide), hnumber, ok_bind] at hreference
    have hbody : CodePoint.scalar '#' :: (ds ++ [.scalar ';'] ++ rest) =
        .scalar '#' :: (ds ++ [.scalar ';']) ++ rest := rfl
    rw [hbody] at hreference
    exact unescape_reference hreference
  | @hexadecimal x ds hx h =>
    have hnumeric := numericReference?_hexadecimal hx h.ne_nil h.isDigit rest
    have hnumber : numberOf 16 (ds.filterMap CodePoint.hexDigit?) = n := by
      rw [numberOf_eq_ofDigits, h.value]
    have hsplit : CodePoint.scalar x :: (ds ++ .scalar ';' :: rest) =
        .scalar x :: (ds ++ [.scalar ';']) ++ rest := by simp
    rw [hsplit] at hnumeric
    have hreference := reference?_number hnumeric
    rw [if_pos rfl, hnumber, ok_bind] at hreference
    have hbody : CodePoint.scalar '#' :: (.scalar x :: (ds ++ [.scalar ';']) ++ rest) =
        .scalar '#' :: .scalar x :: (ds ++ [.scalar ';']) ++ rest := rfl
    rw [hbody] at hreference
    exact unescape_reference hreference

/-- A decimal reference with more digits than are converted is an error. -/
theorem unescape_overlong {ds : Text} (hds : ∀ c ∈ ds, (CodePoint.asciiDigit? c).isSome)
    (hlength : DigitLimit.limit < ds.length) (rest : Text) :
    unescape (.scalar '&' :: .scalar '#' :: (ds ++ .scalar ';' :: rest)) =
      .error (.reading ds.length) := by
  have hne : ds ≠ [] := List.ne_nil_of_length_pos (by omega)
  have hnumeric := numericReference?_decimal hne hds rest
  have hnumber : DigitLimit.numberOf (ds.filterMap CodePoint.asciiDigit?) =
      .error (.reading ds.length) := by
    rw [DigitLimit.numberOf, length_filterMap_digits hds, if_pos hlength]
  have hsplit : ds ++ .scalar ';' :: rest = ds ++ [.scalar ';'] ++ rest := by simp
  rw [hsplit] at hnumeric ⊢
  have hreference := reference?_number hnumeric
  rw [if_neg (by decide), hnumber, error_bind] at hreference
  exact unescape_error hreference

/-! ## Parts -/

theorem Spells.unescape_append {c : CodePoint} {t : Text} (h : Spells c t) (rest : Text) :
    unescape (t ++ rest) = do return c :: (← unescape rest) := by
  cases h with
  | plain h => exact unescape_cons h rest
  | named h hc =>
    rw [hc]
    exact unescape_reference (reference?_named h rest)
  | numeric h =>
    rw [h.unescape_append, referent, CodePoint.ofNat?_toNat]
    rfl

theorem ofNat?_outOfRange {n : Nat} (hn : 0x10FFFF < n) : CodePoint.ofNat? n = none := by
  unfold CodePoint.ofNat?
  rw [dif_neg (by omega), if_neg (by omega)]

/-- A reference begins with an ampersand. -/
theorem RefersTo.cons_tail {n : Nat} {t : Text} (h : RefersTo n t) : .scalar '&' :: t.tail = t := by
  cases h <;> rfl

/-- A part is decoded whatever follows it. -/
theorem Decodes.unescape_append {t u : Text} (h : Decodes t u) (rest : Text) :
    unescape (t ++ rest) = do return u ++ (← unescape rest) := by
  cases h with
  | spelled h => exact h.unescape_append rest
  | outOfRange h hn =>
    rw [h.unescape_append, referent, ofNat?_outOfRange hn]
    dsimp only
    rw [h.cons_tail]

/-- Parts are decoded one by one, whatever follows them. -/
theorem unescape_flatten_append {ts us : List Text} (h : List.Forall₂ Decodes ts us)
    (rest : Text) : unescape (ts.flatten ++ rest) = do return us.flatten ++ (← unescape rest) := by
  induction h with
  | nil =>
    rw [List.flatten_nil, List.nil_append]
    cases unescape rest <;> rfl
  | cons h _ ih =>
    rw [List.flatten_cons, List.append_assoc, h.unescape_append, ih]
    cases unescape rest <;> simp

theorem unescape_flatten {ts us : List Text} (h : List.Forall₂ Decodes ts us) :
    unescape ts.flatten = .ok us.flatten := by
  have hall := unescape_flatten_append h []
  rw [List.append_nil] at hall
  rw [hall]
  exact congrArg Except.ok (List.append_nil _)

/-! ## Ampersands -/

/-- A code point with ampersands written by name. -/
def ampersandNamed (c : CodePoint) : Text := if c = .scalar '&' then "&amp;" else [c]

theorem spells_ampersandNamed (c : CodePoint) : Spells c (ampersandNamed c) := by
  unfold ampersandNamed
  split
  · next h => exact .named List.mem_cons_self h
  · next h => exact .plain h

theorem replaceAll_ampersand (t : Text) :
    replaceAll "&" "&amp;" t = (t.map ampersandNamed).flatten := by
  induction t with
  | nil => rfl
  | cons c t ih =>
    rw [List.map_cons, List.flatten_cons, ← ih, ampersandNamed]
    by_cases hc : c = .scalar '&'
    · subst hc
      rw [if_pos rfl]
      exact replaceAll_append _ (by decide : ofString "&" ≠ []) t
    · rw [if_neg hc]
      refine replaceAll_cons _ fun hstart ↦ hc ?_
      exact (List.cons_prefix_cons.mp hstart).1.symm

/-! ## Texts -/

/-- However the code points of a text are written one after the other, decoding gives the text back. -/
theorem unescape_spelled {t : Text} {ts : List Text} (h : List.Forall₂ Spells t ts) :
    unescape ts.flatten = .ok t := by
  have hparts : List.Forall₂ Decodes ts (t.map fun c ↦ [c]) :=
    List.forall₂_map_right_iff.mpr (h.flip.imp fun _ _ ↦ .spelled)
  rw [unescape_flatten hparts, ← List.flatMap_def, List.flatMap_singleton']

/-- References are decoded exactly once. However the code points of a text are written, the text is
decoded; so it is when every ampersand of it is replaced by its named reference, whatever references the
text seemed to hold. References to numbers that no code point has stay as they are among the others. What
is not decoded is a decimal reference with more digits than are converted: after any such parts, and
whatever follows it, it is an error. -/
theorem unescape_once (t : Text) (ts us : List Text) :
    (List.Forall₂ Spells t ts → unescape ts.flatten = .ok t) ∧
    unescape (replaceAll "&" "&amp;" t) = .ok t ∧
    (List.Forall₂ Decodes ts us → unescape ts.flatten = .ok us.flatten ∧
      ∀ ds rest : Text, (∀ c ∈ ds, (CodePoint.asciiDigit? c).isSome) → DigitLimit.limit < ds.length →
        unescape (ts.flatten ++ .scalar '&' :: .scalar '#' :: (ds ++ .scalar ';' :: rest)) =
          .error (.reading ds.length)) := by
  refine ⟨unescape_spelled, ?_, fun hparts ↦ ⟨unescape_flatten hparts, ?_⟩⟩
  · rw [replaceAll_ampersand]
    apply unescape_spelled
    rw [List.forall₂_map_right_iff, List.forall₂_same]
    exact fun c _ ↦ spells_ampersandNamed c
  · intro ds rest hds hlength
    rw [unescape_flatten_append hparts, unescape_overlong hds hlength]
    rfl

/-- More nines than are converted. -/
def manyNines : Text := List.replicate 4301 (.scalar '9')

theorem asciiDigit?_of_mem_manyNines :
    ∀ c ∈ manyNines, (CodePoint.asciiDigit? c).isSome := by
  intro c hc
  rw [List.eq_of_mem_replicate hc]
  rfl

theorem length_manyNines : manyNines.length = 4301 := List.length_replicate

/-- A code point by name, one by a hexadecimal and one by a decimal number, and a number that no code
point has between two of them; the same before a number with too many digits. -/
theorem unescape_once_mixed :
    unescape (List.flatten ["&amp;", "&#X03c;", "&#0128512;"]) = .ok "&<😀" ∧
    unescape (List.flatten ["&lt;", "&#x110000;", "a"]) = .ok (List.flatten ["<", "&#x110000;", "a"]) ∧
    unescape (List.flatten ["&lt;", "&#x110000;", "a"] ++
      .scalar '&' :: .scalar '#' :: (manyNines ++ [.scalar ';'])) = .error (.reading 4301) := by
  have hlessDigits : IsNumeral CodePoint.hexDigit? 16 "03c" 0x3C :=
    ⟨by decide, by decide, by decide⟩
  have hfaceDigits : IsNumeral CodePoint.asciiDigit? 10 "0128512" 0x1F600 :=
    ⟨by decide, by decide, by decide⟩
  have hlargeDigits : IsNumeral CodePoint.hexDigit? 16 "110000" 0x110000 :=
    ⟨by decide, by decide, by decide⟩
  have hampersand : Spells (.scalar '&') "&amp;" := .named List.mem_cons_self rfl
  have hless : Spells (.scalar '<') "&#X03c;" := .numeric (.hexadecimal (.inr rfl) hlessDigits)
  have hface : Spells (.scalar '😀') "&#0128512;" := .numeric (.decimal hfaceDigits (by decide))
  have hnamed : Spells (.scalar '<') "&lt;" :=
    .named (List.mem_cons_of_mem _ List.mem_cons_self) rfl
  have hlarge : Decodes "&#x110000;" "&#x110000;" :=
    .outOfRange (.hexadecimal (.inl rfl) hlargeDigits) (by decide)
  have hletter : Spells (.scalar 'a') "a" := .plain (by decide)
  have hbetween : List.Forall₂ Decodes ["&lt;", "&#x110000;", "a"] ["<", "&#x110000;", "a"] :=
    .cons (.spelled hnamed) (.cons hlarge (.cons (.spelled hletter) .nil))
  have hspelled : List.Forall₂ Spells "&<😀" ["&amp;", "&#X03c;", "&#0128512;"] :=
    .cons hampersand (.cons hless (.cons hface .nil))
  obtain ⟨hcopied, hoverlong⟩ := (unescape_once [] _ _).2.2 hbetween
  refine ⟨(unescape_once _ _ []).1 hspelled, hcopied, ?_⟩
  rw [← length_manyNines]
  apply hoverlong manyNines [] asciiDigit?_of_mem_manyNines
  rw [length_manyNines]
  decide

/-- Not every reference to a number that no code point has stays as it is: the decimal digits may be too
many. -/
theorem unescape_refuses_reference :
    ¬ ∀ (n : Nat) (ds : Text), IsNumeral CodePoint.asciiDigit? 10 ds n → 0x10FFFF < n →
      unescape (.scalar '&' :: .scalar '#' :: (ds ++ [.scalar ';'])) =
        .ok (.scalar '&' :: .scalar '#' :: (ds ++ [.scalar ';'])) := by
  intro h
  have hne : manyNines ≠ [] := List.ne_nil_of_length_pos (by rw [length_manyNines]; decide)
  have hlarge : 0x10FFFF < Nat.ofDigits 10 (manyNines.filterMap CodePoint.asciiDigit?).reverse := by
    have hnine : CodePoint.asciiDigit? (.scalar '9') = some 9 := by decide
    have hseven : Nat.ofDigits 10 (List.replicate 7 9) = 9999999 := by decide
    rw [manyNines, List.filterMap_replicate_of_some hnine, List.reverse_replicate,
      show 4301 = 7 + 4294 from rfl, ← List.replicate_append_replicate, Nat.ofDigits_append, hseven]
    omega
  have hread := h _ _ ⟨hne, asciiDigit?_of_mem_manyNines, rfl⟩ hlarge
  rw [unescape_overlong asciiDigit?_of_mem_manyNines (by rw [length_manyNines]; decide) []] at hread
  cases hread

end ScriptDefs.Text
