import ScriptDefs.Proofs.Data.Json.Scalars

/-!
# JSON text in ASCII

Where code points outside ASCII are written as escapes, the whole text is in ASCII, whatever the data and
the layout.
-/

namespace ScriptDefs

namespace Text

/-- All code points of a text are in ASCII. -/
def IsAscii (t : Text) : Prop := ∀ c ∈ t, c.toNat < 0x80

instance (t : Text) : Decidable t.IsAscii := inferInstanceAs (Decidable (∀ c ∈ t, c.toNat < 0x80))

theorem isAscii_nil : IsAscii [] := List.forall_mem_nil _

theorem isAscii_cons {c : CodePoint} {t : Text} : IsAscii (c :: t) ↔ c.toNat < 0x80 ∧ IsAscii t :=
  List.forall_mem_cons

theorem isAscii_append {t u : Text} : IsAscii (t ++ u) ↔ IsAscii t ∧ IsAscii u :=
  List.forall_mem_append

theorem isAscii_map_scalar {cs : List Char} (h : ∀ c ∈ cs, c.isDigit = true) :
    IsAscii (cs.map CodePoint.scalar) := by
  unfold IsAscii
  rw [List.forall_mem_map]
  intro c hc
  have hdigit := h c hc
  rw [Char.isDigit, Bool.and_eq_true, decide_eq_true_iff, decide_eq_true_iff] at hdigit
  have hle : c.toNat ≤ 57 := hdigit.2
  change c.toNat < 0x80
  omega

theorem isAscii_joinWith {separator : Text} (hseparator : IsAscii separator) {parts : List Text}
    (h : ∀ t ∈ parts, IsAscii t) : IsAscii (joinWith separator parts) := by
  induction parts with
  | nil => exact isAscii_nil
  | cons t parts ih =>
    obtain ⟨ht, hparts⟩ := List.forall_mem_cons.mp h
    cases parts with
    | nil =>
      rw [joinWith_singleton]
      exact ht
    | cons u parts =>
      rw [joinWith_cons_cons]
      simp only [isAscii_append]
      exact ⟨ht, hseparator, ih hparts⟩

end Text

namespace Json

open Text (IsAscii isAscii_nil isAscii_cons isAscii_append)

/-! ## Strings -/

theorem isAscii_hexDigits (width n : Nat) : IsAscii (Text.hexDigits width n) := by
  have hdigit : ∀ m < 16, (Text.hexDigit m).toNat < 0x80 := by decide
  induction width generalizing n with
  | zero => exact isAscii_nil
  | succ width ih =>
    rw [Text.hexDigits, isAscii_append, isAscii_cons]
    exact ⟨ih _, hdigit _ (Nat.mod_lt _ (by decide)), isAscii_nil⟩

theorem isAscii_unicodeEscape (n : Nat) : IsAscii (unicodeEscape n) := by
  rw [unicodeEscape, isAscii_cons, isAscii_cons]
  exact ⟨by decide, by decide, isAscii_hexDigits 4 n⟩

theorem isAscii_asciiEscape (n : Nat) : IsAscii (asciiEscape n) := by
  unfold asciiEscape
  split
  · exact isAscii_unicodeEscape n
  · exact isAscii_append.mpr ⟨isAscii_unicodeEscape _, isAscii_unicodeEscape _⟩

theorem isAscii_escaped (c : CodePoint) : IsAscii (escaped true c) := by
  unfold escaped
  -- the code points that have an escape of their own
  iterate 7
    split
    · decide
  split
  · exact isAscii_unicodeEscape _
  split
  · exact isAscii_asciiEscape _
  · next hsmall =>
    have hlt : c.toNat < 0x7F := by simpa using hsmall
    exact isAscii_cons.mpr ⟨by omega, isAscii_nil⟩

theorem isAscii_stringText (t : Text) : IsAscii (stringText true t) := by
  rw [stringText, isAscii_append, isAscii_cons]
  refine ⟨⟨by decide, ?_⟩, by decide⟩
  exact List.forall_mem_flatMap.mpr fun c _ ↦ isAscii_escaped c

/-! ## Numbers -/

theorem isAscii_signed {negative : Bool} {t : Text} (h : IsAscii t) :
    IsAscii (Binary64.signed negative t) := by
  cases negative with
  | true => exact isAscii_cons.mpr ⟨by decide, h⟩
  | false => exact h

theorem isAscii_ofInt (n : Int) : IsAscii (Text.ofInt n) := by
  rw [ofInt_eq]
  exact isAscii_signed (Text.isAscii_map_scalar (Text.isDigit_of_mem_toDigits n.natAbs))

theorem isAscii_numeralText {ws fs : List Char} (hws : ∀ c ∈ ws, c.isDigit = true)
    (hfs : ∀ c ∈ fs, c.isDigit = true) (e : Option Int) : IsAscii (numeralText ws fs e) := by
  have hfraction : IsAscii (fractionText fs) := by
    unfold fractionText
    split
    · exact isAscii_nil
    · exact isAscii_cons.mpr ⟨by decide, Text.isAscii_map_scalar hfs⟩
  have hexponent : IsAscii (e.elim [] Binary64.exponentText) := by
    cases e with
    | none => exact isAscii_nil
    | some e =>
      obtain ⟨cs, -, hcs, -, htext⟩ := exists_exponentText e
      rw [Option.elim_some, htext, isAscii_cons, isAscii_cons]
      refine ⟨by decide, ?_, Text.isAscii_map_scalar hcs⟩
      split <;> decide
  rw [numeralText, isAscii_append, isAscii_append]
  exact ⟨Text.isAscii_map_scalar hws, hfraction, hexponent⟩

theorem isAscii_toText (x : Binary64) : IsAscii (x.toText numberNames) := by
  cases x with
  | finite negative rank =>
    obtain ⟨ws, fs, e, h⟩ := exists_writes rank
    rw [Binary64.toText, h.text]
    exact isAscii_signed (isAscii_numeralText h.whole.isDigit h.fraction e)
  | infinite negative => exact isAscii_signed (by decide)
  | nan => decide

/-! ## Values -/

theorem isAscii_integerText (n : Int) : Outcome IsAscii (fun _ ↦ True) (integerText n) := by
  unfold integerText DigitLimit.integerText
  by_cases h : n.natAbs < Nat.pow 10 DigitLimit.limit
  · rw [if_neg (Nat.not_le.mpr h)]
    exact .ok (isAscii_ofInt n)
  · rw [if_pos (Nat.le_of_not_lt h)]
    exact .error trivial

theorem isAscii_scalarText (s : Scalar) : Outcome IsAscii (fun _ ↦ True) (scalarText true s) := by
  cases s with
  | null => exact .ok (by decide)
  | bool b => cases b <;> exact .ok (by decide)
  | int n => exact isAscii_integerText n
  | float x => exact .ok (isAscii_toText x)
  | text t => exact .ok (isAscii_stringText t)
  | date _ | moment _ | bytes _ => exact .error trivial

theorem isAscii_keyText (s : Scalar) : Outcome IsAscii (fun _ ↦ True) (keyText true s) := by
  cases s with
  | text t => exact .ok (isAscii_stringText t)
  | _ => exact (isAscii_scalarText _).bind fun t _ ↦ .ok (isAscii_stringText t)

theorem isAscii_lineBreak (width depth : Nat) : IsAscii (lineBreak width depth) := by
  rw [lineBreak, isAscii_cons]
  refine ⟨by decide, fun c hc ↦ ?_⟩
  rw [List.eq_of_mem_replicate hc]
  decide

/-- Brackets, commas and white space are in ASCII. -/
theorem isAscii_enclose (style : Style) (depth : Nat) {left right : Char} {parts : List Text}
    (hleft : left.toNat < 0x80) (hright : right.toNat < 0x80) (h : ∀ t ∈ parts, IsAscii t) :
    IsAscii (enclose style depth left right parts) := by
  have hclosing : IsAscii [.scalar right] := isAscii_cons.mpr ⟨hright, isAscii_nil⟩
  unfold enclose
  split
  · exact isAscii_cons.mpr ⟨hleft, hclosing⟩
  split
  · exact isAscii_append.mpr
      ⟨isAscii_cons.mpr ⟨hleft, Text.isAscii_joinWith (by decide) h⟩, hclosing⟩
  · next width _ =>
    have hbreak (depth : Nat) := isAscii_lineBreak width depth
    have hseparator : IsAscii (.scalar ',' :: lineBreak width (depth + 1)) :=
      isAscii_cons.mpr ⟨by decide, hbreak _⟩
    have hparts := Text.isAscii_joinWith hseparator h
    simp only [isAscii_append, isAscii_cons]
    exact ⟨⟨⟨⟨hleft, hbreak _⟩, hparts⟩, hbreak _⟩, hright, isAscii_nil⟩

mutual

/-- Whatever the data, its text is in ASCII. -/
theorem isAscii_valueText {style : Style} (hstyle : style.ascii = true) (depth : Nat) :
    (d : Datum) → Outcome IsAscii (fun _ ↦ True) (valueText style depth d)
  | .scalar s => by
    rw [valueText, hstyle]
    exact isAscii_scalarText s
  | .list items => by
    rw [valueText]
    exact (isAscii_itemTexts hstyle (depth + 1) items).bind fun ts hts ↦
      .ok (isAscii_enclose style depth (by decide) (by decide) hts)
  | .pair first second => by
    rw [valueText]
    refine (isAscii_valueText hstyle (depth + 1) first).bind fun t ht ↦ ?_
    refine (isAscii_valueText hstyle (depth + 1) second).bind fun u hu ↦ ?_
    exact .ok (isAscii_enclose style depth (by decide) (by decide) (by simp [ht, hu]))
  | .set _ => by
    rw [valueText]
    exact .error trivial
  | .knot _ body => by
    rw [valueText]
    exact isAscii_valueText hstyle depth body
  | .again _ _ => by
    rw [valueText]
    exact .error trivial
  | .map entries => by
    rw [valueText]
    exact (isAscii_entryTexts hstyle (depth + 1) entries).bind fun ts hts ↦
      .ok (isAscii_enclose style depth (by decide) (by decide) hts)

theorem isAscii_itemTexts {style : Style} (hstyle : style.ascii = true) (depth : Nat) :
    (items : List Datum) →
    Outcome (fun ts ↦ ∀ t ∈ ts, IsAscii t) (fun _ ↦ True) (itemTexts style depth items)
  | [] => .ok (List.forall_mem_nil _)
  | d :: rest => by
    rw [itemTexts]
    refine (isAscii_valueText hstyle depth d).bind fun t ht ↦ ?_
    exact (isAscii_itemTexts hstyle depth rest).bind fun ts hts ↦
      .ok (List.forall_mem_cons.mpr ⟨ht, hts⟩)

theorem isAscii_entryTexts {style : Style} (hstyle : style.ascii = true) (depth : Nat) :
    (entries : List (Scalar × Datum)) →
    Outcome (fun ts ↦ ∀ t ∈ ts, IsAscii t) (fun _ ↦ True) (entryTexts style depth entries)
  | [] => .ok (List.forall_mem_nil _)
  | (k, v) :: rest => by
    rw [entryTexts, hstyle]
    refine (isAscii_keyText k).bind fun key hkey ↦ ?_
    refine (isAscii_valueText hstyle depth v).bind fun value hvalue ↦ ?_
    refine (isAscii_entryTexts hstyle depth rest).bind fun ts hts ↦ .ok ?_
    refine List.forall_mem_cons.mpr ⟨?_, hts⟩
    exact isAscii_append.mpr ⟨isAscii_append.mpr ⟨hkey, by decide⟩, hvalue⟩

end

/-- JSON text in ASCII style is in ASCII. -/
theorem isAscii_of_print {style : Style} (hstyle : style.ascii = true) {d : Datum} {t : Text}
    (h : print style d = .ok t) : IsAscii t :=
  (isAscii_valueText hstyle 0 d).of_ok h

end Json

end ScriptDefs
