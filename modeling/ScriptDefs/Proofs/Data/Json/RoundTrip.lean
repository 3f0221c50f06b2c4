import Mathlib.Data.List.Nodup
import ScriptDefs.Proofs.Data.Assoc
import ScriptDefs.Proofs.Data.Json.Scalars

/-!
# Data in JSON text

Data with a JSON form is written, in every layout, unless one of its integers has too many digits,
and reading the text gives the data back, with the keys in their order. The layouts differ in the
white space between tokens, which the reader skips.
-/

namespace ScriptDefs

/-- Data as JSON texts hold it: scalars with a JSON form, lists, and objects under different keys.
What is asked of texts and keys is a parameter. -/
inductive Datum.IsJson (P : Text → Prop) : Datum → Prop where
  | scalar {s : Scalar} (hkind : s.kind ∉ [.date, .moment, .bytes])
    (htext : ∀ t, s = .text t → P t) : IsJson P (.scalar s)
  | list {items : List Datum} (h : ∀ d ∈ items, IsJson P d) : IsJson P (.list items)
  | object {fields : List (Text × Datum)} (hkeys : (Assoc.keys fields).Nodup)
    (htexts : ∀ f ∈ fields, P f.1) (h : ∀ f ∈ fields, IsJson P f.2) : IsJson P (.object fields)

namespace Json

/-! ## White space -/

/-- White space between tokens. -/
def IsGap (t : Text) : Prop := ∀ c ∈ t, isSpace c = true

theorem skipSpace_append {gap t : Text} (hgap : IsGap gap)
    (ht : ∀ c ∈ t.head?, isSpace c = false) : skipSpace (gap ++ t) = t := by
  induction gap with
  | nil =>
    cases t with
    | nil => rfl
    | cons c t => exact List.dropWhile_cons_of_neg (by simp [ht c rfl])
  | cons c gap ih =>
    obtain ⟨hc, hgap⟩ := List.forall_mem_cons.mp hgap
    exact (List.dropWhile_cons_of_pos hc).trans (ih hgap)

theorem isGap_lineBreak (width depth : Nat) : IsGap (lineBreak width depth) := by
  refine List.forall_mem_cons.mpr ⟨rfl, fun c hc ↦ ?_⟩
  rw [(List.mem_replicate.mp hc).2]
  rfl

/-- Whatever the layout, parts stand between brackets, with commas between them and white space
around them. -/
theorem exists_enclose (style : Style) (depth : Nat) (left right : Char) {parts : List Text}
    (h : parts ≠ []) :
    ∃ before between after, IsGap before ∧ IsGap between ∧ IsGap after ∧
      enclose style depth left right parts = .scalar left :: (before ++
        (Text.joinWith (.scalar ',' :: between) parts ++ (after ++ [.scalar right]))) := by
  unfold enclose
  rw [if_neg (by simpa using h)]
  split
  · exact ⟨[], [.scalar ' '], [], by simp [IsGap], by simp [IsGap, isSpace], by simp [IsGap], rfl⟩
  · next width _ =>
    refine ⟨lineBreak width (depth + 1), lineBreak width (depth + 1), lineBreak width depth,
      isGap_lineBreak _ _, isGap_lineBreak _ _, isGap_lineBreak _ _, ?_⟩
    simp only [List.append_assoc, List.cons_append]

theorem follows_cons {c : CodePoint} (t : Text)
    (hc : c ∈ [CodePoint.scalar ',', .scalar ']', .scalar '\x7d']) : Follows (c :: t) := by
  rintro _ ⟨⟩
  exact .inr (by simpa using hc)

theorem follows_gap {gap t : Text} (hgap : IsGap gap) (ht : Follows t) : Follows (gap ++ t) := by
  cases gap with
  | nil => exact ht
  | cons c gap =>
    rintro _ ⟨⟩
    exact .inl (hgap c List.mem_cons_self)

/-! ## Values -/

/-- A text begins like a value and is read as it, whatever follows, within a number of calls that
grows with the length. -/
structure Denotes (t : Text) (d : Datum) : Prop where
  starts : ∃ c t', t = c :: t' ∧ isSpace c = false ∧ c ≠ .scalar ']'
  reads : ∀ {rest : Text} {fuel : Nat}, Follows rest → 2 * (t ++ rest).length ≤ fuel →
    readValue fuel (t ++ rest) = .ok (d, rest)

theorem Denotes.head {t : Text} {d : Datum} (h : Denotes t d) (rest : Text) :
    ∀ c ∈ (t ++ rest).head?, isSpace c = false ∧ c ≠ .scalar ']' := by
  obtain ⟨c, t', rfl, hc⟩ := h.starts
  rintro _ ⟨⟩
  exact hc

/-- Parts that are joined begin like the first of them. -/
theorem head_joinWith {t : Text} {d : Datum} (h : Denotes t d) (parts : List Text)
    (separator rest : Text) :
    ∀ c ∈ (Text.joinWith separator (t :: parts) ++ rest).head?,
      isSpace c = false ∧ c ≠ .scalar ']' := by
  obtain ⟨c, t', rfl, hc⟩ := h.starts
  cases parts with
  | nil =>
    rw [Text.joinWith_singleton]
    rintro _ ⟨⟩
    exact hc
  | cons u parts =>
    rw [Text.joinWith_cons_cons]
    rintro _ ⟨⟩
    exact hc

theorem DenotesScalar.denotes {t : Text} {s : Scalar} (h : DenotesScalar t s) :
    Denotes t (.scalar s) := by
  obtain ⟨c, t', rfl, hc⟩ := h.starts
  have hclosing : c ≠ .scalar ']' := by
    rintro rfl
    exact hc.bracket (by decide)
  refine ⟨⟨c, t', rfl, hc.space, hclosing⟩, fun {rest fuel} hrest hfuel ↦ ?_⟩
  obtain ⟨fuel, rfl⟩ : ∃ n, fuel = n + 1 := Nat.exists_eq_add_one.mpr (by simp at hfuel; omega)
  have hread := h.reads hrest
  rw [List.cons_append] at hread ⊢
  unfold readValue
  split
  · next heq => cases heq; exact absurd (by decide) hc.bracket
  · next heq => cases heq; exact absurd (by decide) hc.bracket
  · rw [hread]
    rfl

/-! ## Lists -/

theorem readItems_last {t rest after : Text} {d : Datum} {fuel : Nat}
    (h : readValue fuel t = .ok (d, rest)) (hrest : skipSpace rest = .scalar ']' :: after) :
    readItems (fuel + 1) t = .ok ([d], after) := by
  rw [readItems, h, ok_bind]
  dsimp only
  rw [hrest]
  rfl

theorem readItems_cons {t rest after after' : Text} {d : Datum} {items : List Datum} {fuel : Nat}
    (h : readValue fuel t = .ok (d, rest)) (hrest : skipSpace rest = .scalar ',' :: after)
    (hitems : readItems fuel (skipSpace after) = .ok (items, after')) :
    readItems (fuel + 1) t = .ok (d :: items, after') := by
  rw [readItems, h, ok_bind]
  dsimp only
  rw [hrest]
  change (readItems fuel (skipSpace after) >>= _) = _
  rw [hitems]
  rfl

/-- The texts of items with commas between them are read up to the closing bracket. -/
theorem readItems_joinWith {between after : Text} (hbetween : IsGap between) (hafter : IsGap after)
    {parts : List Text} {items : List Datum} (h : List.Forall₂ Denotes parts items)
    (hne : parts ≠ []) {rest : Text} {fuel : Nat}
    (hfuel : 2 * (Text.joinWith (.scalar ',' :: between) parts ++
      (after ++ .scalar ']' :: rest)).length + 1 ≤ fuel) :
    readItems fuel (Text.joinWith (.scalar ',' :: between) parts ++
      (after ++ .scalar ']' :: rest)) = .ok (items, rest) := by
  induction h generalizing fuel with
  | nil => exact absurd rfl hne
  | @cons p d parts items hp hparts ih =>
    obtain ⟨fuel, rfl⟩ : ∃ n, fuel = n + 1 := Nat.exists_eq_add_one.mpr (by omega)
    cases hparts with
    | nil =>
      rw [Text.joinWith_singleton] at hfuel ⊢
      have hclose : Follows (.scalar ']' :: rest) := follows_cons rest (by decide)
      exact readItems_last (hp.reads (follows_gap hafter hclose) (by omega))
        (skipSpace_append hafter (by rintro _ ⟨⟩; rfl))
    | @cons q d' parts items hq hparts =>
      rw [Text.joinWith_cons_cons] at hfuel ⊢
      simp only [List.append_assoc, List.cons_append] at hfuel ⊢
      refine readItems_cons (hp.reads (follows_cons _ (by decide)) (by omega))
        (skipSpace_append (List.forall_mem_nil _) (by rintro _ ⟨⟩; rfl)) ?_
      rw [skipSpace_append hbetween fun c hc ↦ (head_joinWith hq parts _ _ c hc).1]
      exact ih (List.cons_ne_nil q parts) (by simp at hfuel ⊢; omega)

/-! ## Objects -/

/-- A text is a key, a colon and a text that denotes a value. -/
def DenotesEntry (ascii : Bool) (t : Text) (f : Text × Datum) : Prop :=
  ∃ v, Legible ascii f.1 ∧ t = stringText ascii f.1 ++ (.scalar ':' :: .scalar ' ' :: v) ∧
    Denotes v f.2

/-- Entries that are joined begin with a quote. -/
theorem DenotesEntry.head_joinWith {ascii : Bool} {t : Text} {f : Text × Datum}
    (h : DenotesEntry ascii t f) (parts : List Text) (separator rest : Text) :
    ∀ c ∈ (Text.joinWith separator (t :: parts) ++ rest).head?, c = .scalar '"' := by
  obtain ⟨v, -, rfl, -⟩ := h
  cases parts with
  | nil =>
    rw [Text.joinWith_singleton]
    rintro _ ⟨⟩
    rfl
  | cons u parts =>
    rw [Text.joinWith_cons_cons]
    rintro _ ⟨⟩
    rfl

/-- Of an entry, the key is read as a string and the value after the colon and a space. -/
theorem DenotesEntry.exists_readValue {ascii : Bool} {t rest : Text} {f : Text × Datum} {fuel : Nat}
    (h : DenotesEntry ascii t f) (hrest : Follows rest) (hfuel : 2 * (t ++ rest).length ≤ fuel) :
    ∃ t' u, t ++ rest = .scalar '"' :: t' ∧ readString? t' = some (f.1, .scalar ':' :: u) ∧
      readValue fuel (skipSpace u) = .ok (f.2, rest) := by
  obtain ⟨v, hkey, rfl, hv⟩ := h
  have htext : stringText ascii f.1 ++ (.scalar ':' :: .scalar ' ' :: v) ++ rest =
      .scalar '"' :: (f.1.flatMap (escaped ascii) ++
        .scalar '"' :: .scalar ':' :: .scalar ' ' :: (v ++ rest)) := by
    simp [stringText]
  have hspace : skipSpace (.scalar ' ' :: (v ++ rest)) = v ++ rest :=
    skipSpace_append (List.forall_mem_singleton.mpr rfl : IsGap [.scalar ' '])
      fun c hc ↦ (hv.head rest c hc).1
  refine ⟨_, _, htext, readString?_flatMap_escaped ascii hkey _, ?_⟩
  rw [htext] at hfuel
  rw [hspace]
  exact hv.reads hrest (by simp at hfuel ⊢; omega)

/-- The first entry is read, and then a brace closes the object or a comma continues it. -/
theorem readEntries_append {ascii : Bool} {t rest : Text} {f : Text × Datum} {fuel : Nat}
    (h : DenotesEntry ascii t f) (hrest : Follows rest) (hfuel : 2 * (t ++ rest).length ≤ fuel) :
    (∀ after, skipSpace rest = .scalar '\x7d' :: after →
      readEntries (fuel + 1) (t ++ rest) = .ok ([(.text f.1, f.2)], after)) ∧
    ∀ after entries after', skipSpace rest = .scalar ',' :: after →
      readEntries fuel (skipSpace after) = .ok (entries, after') →
        readEntries (fuel + 1) (t ++ rest) = .ok ((.text f.1, f.2) :: entries, after') := by
  obtain ⟨t', u, htext, hkey, hvalue⟩ := h.exists_readValue hrest hfuel
  have hcolon : skipSpace (.scalar ':' :: u) = .scalar ':' :: u := rfl
  rw [htext, readEntries, hkey]
  dsimp only
  rw [hcolon]
  change (∀ after, _ → (readValue fuel (skipSpace u) >>= _) = _) ∧
    ∀ after entries after', _ → _ → (readValue fuel (skipSpace u) >>= _) = _
  rw [hvalue, ok_bind]
  constructor
  · intro after hafter
    dsimp only
    rw [hafter]
    rfl
  · intro after entries after' hafter hentries
    dsimp only
    rw [hafter]
    change (readEntries fuel (skipSpace after) >>= _) = _
    rw [hentries]
    rfl

/-- The texts of entries with commas between them are read up to the closing brace. -/
theorem readEntries_joinWith {ascii : Bool} {between after : Text} (hbetween : IsGap between)
    (hafter : IsGap after) {parts : List Text} {fields : List (Text × Datum)}
    (h : List.Forall₂ (DenotesEntry ascii) parts fields) (hne : parts ≠ []) {rest : Text}
    {fuel : Nat}
    (hfuel : 2 * (Text.joinWith (.scalar ',' :: between) parts ++
      (after ++ .scalar '\x7d' :: rest)).length + 1 ≤ fuel) :
    readEntries fuel (Text.joinWith (.scalar ',' :: between) parts ++
      (after ++ .scalar '\x7d' :: rest)) = .ok (fields.map fun f ↦ (.text f.1, f.2), rest) := by
  induction h generalizing fuel with
  | nil => exact absurd rfl hne
  | @cons p f parts fields hp hparts ih =>
    obtain ⟨fuel, rfl⟩ : ∃ n, fuel = n + 1 := Nat.exists_eq_add_one.mpr (by omega)
    cases hparts with
    | nil =>
      rw [Text.joinWith_singleton] at hfuel ⊢
      have hclose : Follows (.scalar '\x7d' :: rest) := follows_cons rest (by decide)
      exact (readEntries_append hp (follows_gap hafter hclose) (by omega)).1 rest
        (skipSpace_append hafter (by rintro _ ⟨⟩; rfl))
    | @cons q f' parts fields hq hparts =>
      rw [Text.joinWith_cons_cons] at hfuel ⊢
      simp only [List.append_assoc, List.cons_append] at hfuel ⊢
      refine (readEntries_append hp (follows_cons _ (by decide)) (by omega)).2 _ _ _
        (skipSpace_append (List.forall_mem_nil _) (by rintro _ ⟨⟩; rfl)) ?_
      rw [skipSpace_append hbetween fun c hc ↦ hq.head_joinWith parts _ _ c hc ▸ rfl]
      exact ih (List.cons_ne_nil q parts) (by simp at hfuel ⊢; omega)

/-! ## Between brackets -/

theorem readValue_list {t t' rest : Text} {fuel : Nat} {items : List Datum}
    (hskip : skipSpace t = t') (hhead : ∀ c ∈ t'.head?, c ≠ .scalar ']')
    (h : readItems fuel t' = .ok (items, rest)) :
    readValue (fuel + 1) (.scalar '[' :: t) = .ok (.list items, rest) := by
  rw [readValue, hskip]
  split
  · exact absurd rfl (hhead _ rfl)
  · rw [h]
    rfl

theorem readValue_object {t t' rest : Text} {fuel : Nat} {entries : Fields}
    (hskip : skipSpace t = t') (hhead : ∀ c ∈ t'.head?, c = .scalar '"')
    (h : readEntries fuel t' = .ok (entries, rest)) :
    readValue (fuel + 1) (.scalar '\x7b' :: t) = .ok (.map (Assoc.ofList entries), rest) := by
  rw [readValue, hskip]
  split
  · exact absurd (hhead _ rfl) (by decide)
  · rw [h]
    rfl

/-- Parts between square brackets denote the list of what they denote. -/
theorem denotes_list (style : Style) (depth : Nat) {parts : List Text} {items : List Datum}
    (h : List.Forall₂ Denotes parts items) :
    Denotes (enclose style depth '[' ']' parts) (.list items) := by
  cases h with
  | nil =>
    refine ⟨⟨_, _, rfl, rfl, by decide⟩, fun {rest fuel} _ hfuel ↦ ?_⟩
    obtain ⟨fuel, rfl⟩ : ∃ n, fuel = n + 1 :=
      Nat.exists_eq_add_one.mpr (by simp [enclose] at hfuel; omega)
    rfl
  | @cons p d parts items hp hparts =>
    obtain ⟨before, between, after, hbefore, hbetween, hafter, htext⟩ :=
      exists_enclose style depth '[' ']' (List.cons_ne_nil p parts)
    rw [htext]
    refine ⟨⟨_, _, rfl, rfl, by decide⟩, fun {rest fuel} _ hfuel ↦ ?_⟩
    obtain ⟨fuel, rfl⟩ : ∃ n, fuel = n + 1 := Nat.exists_eq_add_one.mpr (by simp at hfuel; omega)
    simp only [List.cons_append, List.append_assoc, List.nil_append] at hfuel ⊢
    have hhead := head_joinWith hp parts (.scalar ',' :: between) (after ++ .scalar ']' :: rest)
    have hskip := skipSpace_append hbefore fun c hc ↦ (hhead c hc).1
    refine readValue_list hskip (fun c hc ↦ (hhead c hc).2) ?_
    exact readItems_joinWith hbetween hafter (.cons hp hparts) (List.cons_ne_nil p parts)
      (by simp at hfuel ⊢; omega)

/-- Entries between braces denote the object of what they denote, if their keys differ. -/
theorem denotes_object (style : Style) (depth : Nat) {parts : List Text}
    {fields : List (Text × Datum)} (hkeys : (Assoc.keys fields).Nodup)
    (h : List.Forall₂ (DenotesEntry style.ascii) parts fields) :
    Denotes (enclose style depth '\x7b' '\x7d' parts) (.object fields) := by
  have hmap : Assoc.ofList (fields.map fun f ↦ (Scalar.text f.1, f.2)) =
      fields.map fun f ↦ (Scalar.text f.1, f.2) := by
    refine Assoc.ofList_of_nodup ?_
    rw [Assoc.keys, List.map_map]
    have hinj : Function.Injective Scalar.text := fun _ _ h ↦ Scalar.text.inj h
    have htexts := hkeys.map hinj
    rwa [Assoc.keys, List.map_map] at htexts
  cases h with
  | nil =>
    refine ⟨⟨_, _, rfl, rfl, by decide⟩, fun {rest fuel} _ hfuel ↦ ?_⟩
    obtain ⟨fuel, rfl⟩ : ∃ n, fuel = n + 1 :=
      Nat.exists_eq_add_one.mpr (by simp [enclose] at hfuel; omega)
    rfl
  | @cons p f parts fields hp hparts =>
    obtain ⟨before, between, after, hbefore, hbetween, hafter, htext⟩ :=
      exists_enclose style depth '\x7b' '\x7d' (List.cons_ne_nil p parts)
    rw [htext]
    refine ⟨⟨_, _, rfl, rfl, by decide⟩, fun {rest fuel} _ hfuel ↦ ?_⟩
    obtain ⟨fuel, rfl⟩ : ∃ n, fuel = n + 1 := Nat.exists_eq_add_one.mpr (by simp at hfuel; omega)
    simp only [List.cons_append, List.append_assoc, List.nil_append] at hfuel ⊢
    have hhead := hp.head_joinWith parts (.scalar ',' :: between) (after ++ .scalar '\x7d' :: rest)
    have hskip := skipSpace_append hbefore fun c hc ↦ hhead c hc ▸ rfl
    rw [Datum.object, ← hmap]
    refine readValue_object hskip hhead ?_
    exact readEntries_joinWith hbetween hafter (.cons hp hparts) (List.cons_ne_nil p parts)
      (by simp at hfuel ⊢; omega)

/-! ## Printing -/

/-- What is known of the text of data: there is one unless an integer has too many digits, and it
denotes the data. -/
abbrev WritesAs (d : Datum) (x : Except WriteError Text) : Prop :=
  Outcome (fun t ↦ d.isWritable = true ∧ Denotes t d)
    (fun e ↦ d.isWritable = false ∧ e = .digitLimit .writing) x

theorem itemTexts_outcome {style : Style} {depth : Nat} {items : List Datum}
    (h : ∀ d ∈ items, WritesAs d (valueText style depth d)) :
    Outcome (fun ts ↦ Datum.areWritable items = true ∧ List.Forall₂ Denotes ts items)
      (fun e ↦ Datum.areWritable items = false ∧ e = .digitLimit .writing)
      (itemTexts style depth items) := by
  induction items with
  | nil => exact .ok ⟨rfl, .nil⟩
  | cons d items ih =>
    obtain ⟨hd, hitems⟩ := List.forall_mem_cons.mp h
    simp only [itemTexts, Datum.areWritable, Bool.and_eq_true, Bool.and_eq_false_iff]
    refine (hd.mono_error fun e he ↦ ⟨.inl he.1, he.2⟩).bind fun t ht ↦ ?_
    refine ((ih hitems).mono_error fun e he ↦ ⟨.inr he.1, he.2⟩).bind fun ts hts ↦ ?_
    exact .ok ⟨⟨ht.1, hts.1⟩, .cons ht.2 hts.2⟩

theorem entryTexts_outcome {style : Style} {depth : Nat} {fields : List (Text × Datum)}
    (hkeys : ∀ f ∈ fields, Legible style.ascii f.1)
    (h : ∀ f ∈ fields, WritesAs f.2 (valueText style depth f.2)) :
    Outcome (fun ts ↦ Datum.entriesAreWritable (fields.map fun f ↦ (.text f.1, f.2)) = true ∧
        List.Forall₂ (DenotesEntry style.ascii) ts fields)
      (fun e ↦ Datum.entriesAreWritable (fields.map fun f ↦ (.text f.1, f.2)) = false ∧
        e = .digitLimit .writing)
      (entryTexts style depth (fields.map fun f ↦ (.text f.1, f.2))) := by
  induction fields with
  | nil => exact .ok ⟨rfl, .nil⟩
  | cons f fields ih =>
    obtain ⟨hkey, hkeys⟩ := List.forall_mem_cons.mp hkeys
    obtain ⟨hf, hfields⟩ := List.forall_mem_cons.mp h
    simp only [List.map_cons, entryTexts, keyText, Datum.entriesAreWritable, Scalar.isWritable,
      Bool.true_and, Bool.and_eq_true, Bool.and_eq_false_iff, ok_bind]
    refine (hf.mono_error fun e he ↦ ⟨.inl he.1, he.2⟩).bind fun t ht ↦ ?_
    refine ((ih hkeys hfields).mono_error fun e he ↦ ⟨.inr he.1, he.2⟩).bind fun ts hts ↦ ?_
    refine .ok ⟨⟨ht.1, hts.1⟩, .cons ⟨t, hkey, ?_, ht.2⟩ hts.2⟩
    rw [List.append_assoc]
    rfl

/-- In every layout, data with a JSON form is written as a text that denotes it. -/
theorem valueText_outcome {P : Text → Prop} {style : Style} (hP : ∀ t, P t → Legible style.ascii t)
    {d : Datum} (h : d.IsJson P) (depth : Nat) : WritesAs d (valueText style depth d) := by
  induction h generalizing depth with
  | scalar hkind htext =>
    refine (scalarText_outcome hkind fun t ht ↦ hP t (htext t ht)).mono fun t ht ↦ ?_
    exact ⟨ht.1, ht.2.denotes⟩
  | list _ ih =>
    rw [valueText]
    exact (itemTexts_outcome fun d hd ↦ ih d hd _).bind fun ts hts ↦
      .ok ⟨hts.1, denotes_list style depth hts.2⟩
  | object hkeys htexts _ ih =>
    rw [Datum.object, valueText]
    exact (entryTexts_outcome (fun f hf ↦ hP f.1 (htexts f hf)) fun f hf ↦ ih f hf _).bind
      fun ts hts ↦ .ok ⟨hts.1, denotes_object style depth hkeys hts.2⟩

/-- A text that denotes a value is read as it. -/
theorem Denotes.read {t : Text} {d : Datum} (h : Denotes t d) : Json.read t = .ok d := by
  have hskip : skipSpace t = t := by
    have hstart := skipSpace_append (List.forall_mem_nil _ : IsGap []) fun c hc ↦ (h.head [] c hc).1
    rwa [List.append_nil, List.nil_append] at hstart
  have hread : readValue (2 * t.length + 2) (t ++ []) = .ok (d, []) :=
    h.reads (fun _ hc ↦ nomatch hc) (by simp)
  rw [List.append_nil] at hread
  rw [Json.read, hskip, hread]
  rfl

/-- Data with a JSON form has a text exactly when none of its integers has too many digits, and
reading the text gives the data back. -/
theorem print_outcome {P : Text → Prop} {style : Style} (hP : ∀ t, P t → Legible style.ascii t)
    {d : Datum} (h : d.IsJson P) :
    Outcome (fun t ↦ d.isWritable = true ∧ Json.read t = .ok d)
      (fun e ↦ d.isWritable = false ∧ e = .digitLimit .writing) (print style d) :=
  (valueText_outcome hP h 0).mono fun _ ht ↦ ⟨ht.1, ht.2.read⟩

end Json

end ScriptDefs
