import ScriptDefs.Data.Json.Printer
import ScriptDefs.Proofs.Data.Inherited

/-!
# Data with a JSON form

Lists and maps of scalars can be written as JSON in every layout, unless one of the scalars is a
date, a moment, bytes or an integer with too many digits.
-/

namespace ScriptDefs

/-- Scalars that can be written as JSON. -/
structure Scalar.HasJsonForm (s : Scalar) : Prop where
  isWritable : s.isWritable = true
  kind : s.kind ∉ [.date, .moment, .bytes]

namespace Datum

/-- Lists and maps of scalars with a property. -/
inductive BuiltOf (P : Scalar → Prop) : Datum → Prop where
  | scalar {s : Scalar} (h : P s) : BuiltOf P (.scalar s)
  | list {items : List Datum} (h : ∀ d ∈ items, BuiltOf P d) : BuiltOf P (.list items)
  | map {entries : Fields} (hkeys : ∀ e ∈ entries, P e.1) (h : ∀ e ∈ entries, BuiltOf P e.2) :
    BuiltOf P (.map entries)

/-- Values that JSON has, integers with any number of digits. -/
abbrev IsJsonValue : Datum → Prop := BuiltOf fun s ↦ s.kind ∉ [.date, .moment, .bytes]

/-- Data that JSON texts can hold. -/
abbrev HasJsonForm : Datum → Prop := BuiltOf Scalar.HasJsonForm

variable {P Q : Scalar → Prop}

theorem builtOf_scalar {s : Scalar} : BuiltOf P (.scalar s) ↔ P s :=
  ⟨fun h ↦ by cases h; assumption, .scalar⟩

theorem BuiltOf.mono {d : Datum} (hd : BuiltOf P d) (h : ∀ s, P s → Q s) : BuiltOf Q d := by
  induction hd with
  | scalar hs => exact .scalar (h _ hs)
  | list _ ih => exact .list ih
  | map hkeys _ ih => exact .map (fun e he ↦ h _ (hkeys e he)) ih

/-- There is nothing to open in lists and maps of scalars. -/
theorem BuiltOf.unrolled {d : Datum} (h : BuiltOf P d) (n : Nat) : d.unrolled n = d := by
  induction n generalizing d with
  | zero => rfl
  | succ n ih =>
    rw [Datum.unrolled]
    cases h with
    | scalar _ => rfl
    | @list items h =>
      have hitems : items.map (Datum.unrolled n) = items.map id :=
        List.map_congr_left fun d hd ↦ ih (h d hd)
      rw [List.map_id] at hitems
      exact congrArg Datum.list hitems
    | @map entries _ h =>
      have hentries : entries.map (fun e ↦ (e.1, Datum.unrolled n e.2)) = entries.map id :=
        List.map_congr_left fun e he ↦ Prod.ext rfl (ih (h e he))
      rw [List.map_id] at hentries
      exact congrArg Datum.map hentries

/-- A property of scalars passes on to all parts of data that is built of them. -/
theorem inherited_builtOf (hnull : P .null) (hbool : ∀ b, P (.bool b))
    (hstring : ∀ s : String, P (.text s)) : Inherited (BuiltOf P) where
  list items := ⟨fun h ↦ by cases h; assumption, .list⟩
  map entries := by
    constructor
    · intro h e he
      cases h with
      | map hkeys h => exact ⟨.scalar (hkeys e he), h e he⟩
    · intro h
      exact .map (fun e he ↦ builtOf_scalar.mp (h e he).1) fun e he ↦ (h e he).2
  null := .scalar hnull
  bool b := .scalar (hbool b)
  string s := .scalar (hstring s)

theorem inherited_hasJsonForm : Inherited HasJsonForm :=
  inherited_builtOf ⟨rfl, by simp [Scalar.kind]⟩ (fun _ ↦ ⟨rfl, by simp [Scalar.kind]⟩)
    fun _ ↦ ⟨rfl, by simp [Scalar.kind]⟩

theorem isJsonValue_text (t : Text) : (text t).IsJsonValue := .scalar (by simp [Scalar.kind])

theorem inherited_isJsonValue : Inherited IsJsonValue :=
  inherited_builtOf (by simp [Scalar.kind]) (fun _ ↦ by simp [Scalar.kind])
    fun _ ↦ by simp [Scalar.kind]

/-! ## Plain collections -/

/-- Lists and maps of scalars, whatever these are. -/
abbrev IsPlain : Datum → Prop := BuiltOf fun _ ↦ True

theorem inherited_isPlain : Inherited IsPlain :=
  inherited_builtOf trivial (fun _ ↦ trivial) fun _ ↦ trivial

@[simp] theorem isPlain_scalar (s : Scalar) : (Datum.scalar s).IsPlain := .scalar trivial

theorem IsText.isPlain {d : Datum} (h : d.IsText) : d.IsPlain := by
  obtain ⟨t, rfl⟩ := isText_iff.mp h
  exact isPlain_scalar _

theorem IsNameOrNull.isPlain {d : Datum} (h : d.IsNameOrNull) : d.IsPlain := by
  obtain ⟨t, rfl⟩ := isNameOrNull_iff.mp h
  cases t <;> exact isPlain_scalar _

theorem IsCost.isPlain {d : Datum} (h : d.IsCost) : d.IsPlain := by
  unfold IsCost at h
  split at h
  · exact isPlain_scalar _
  · exact isPlain_scalar _
  · exact isPlain_scalar _
  · cases h

theorem IsConstantValue.isPlain {d : Datum} (h : d.IsConstantValue) : d.IsPlain := by
  unfold IsConstantValue at h
  split at h
  · exact isPlain_scalar _
  · exact isPlain_scalar _
  · exact isPlain_scalar _
  · exact isPlain_scalar _
  · cases h

/-! ## Numbers of digits -/

theorem areWritable_iff {items : List Datum} :
    areWritable items = true ↔ ∀ d ∈ items, d.isWritable = true := by
  induction items with
  | nil => simp [areWritable]
  | cons d items ih => rw [areWritable, Bool.and_eq_true, ih, List.forall_mem_cons]

theorem entriesAreWritable_iff {entries : Fields} :
    entriesAreWritable entries = true ↔
      ∀ e ∈ entries, e.1.isWritable = true ∧ e.2.isWritable = true := by
  induction entries with
  | nil => simp [entriesAreWritable]
  | cons e entries ih =>
    rw [entriesAreWritable, Bool.and_eq_true, Bool.and_eq_true, ih, List.forall_mem_cons]

theorem inherited_isWritable : Inherited fun d ↦ d.isWritable = true where
  list _ := by rw [isWritable, areWritable_iff]
  map _ := by
    rw [isWritable, entriesAreWritable_iff]
    exact Iff.rfl
  null := rfl
  bool _ := rfl
  string _ := rfl

-- along the value that is filled
mutual

theorem isWritable_fill {label : Nat} {whole : Datum} (hwhole : whole.isWritable = true) :
    ∀ d : Datum, d.isWritable = true → (fill label whole d).isWritable = true
  | .scalar _, h => by rwa [fill]
  | .list items, h => by
    rw [isWritable] at h
    rw [fill, isWritable]
    exact areWritable_fillItems hwhole items h
  | .pair first second, h => by
    rw [isWritable, Bool.and_eq_true] at h
    rw [fill, isWritable, Bool.and_eq_true]
    exact ⟨isWritable_fill hwhole first h.1, isWritable_fill hwhole second h.2⟩
  | .set _, h => by rwa [fill]
  | .map entries, h => by
    rw [isWritable] at h
    rw [fill, isWritable]
    exact entriesAreWritable_fillEntries hwhole entries h
  | .knot l body, h => by
    rw [fill]
    split
    · exact h
    · rw [isWritable] at h
      rw [isWritable]
      exact isWritable_fill hwhole body h
  | .again _ _, h => by
    rw [fill]
    split
    · exact hwhole
    · exact h

theorem areWritable_fillItems {label : Nat} {whole : Datum} (hwhole : whole.isWritable = true) :
    ∀ items : List Datum, areWritable items = true →
      areWritable (fillItems label whole items) = true
  | [], _ => by rw [fillItems, areWritable]
  | d :: rest, h => by
    rw [areWritable, Bool.and_eq_true] at h
    rw [fillItems, areWritable, Bool.and_eq_true]
    exact ⟨isWritable_fill hwhole d h.1, areWritable_fillItems hwhole rest h.2⟩

theorem entriesAreWritable_fillEntries {label : Nat} {whole : Datum}
    (hwhole : whole.isWritable = true) :
    ∀ entries : List (Scalar × Datum), entriesAreWritable entries = true →
      entriesAreWritable (fillEntries label whole entries) = true
  | [], _ => by rw [fillEntries, entriesAreWritable]
  | (k, v) :: rest, h => by
    rw [entriesAreWritable, Bool.and_eq_true, Bool.and_eq_true] at h
    rw [fillEntries, entriesAreWritable, Bool.and_eq_true, Bool.and_eq_true]
    exact ⟨⟨h.1.1, isWritable_fill hwhole v h.1.2⟩,
      entriesAreWritable_fillEntries hwhole rest h.2⟩

end

/-- A collection that is a part of itself has no other numbers than those in its body. -/
theorem isWritable_opened {d : Datum} (h : d.isWritable = true) : d.opened.isWritable = true := by
  cases d with
  | knot label body =>
    rw [opened]
    exact isWritable_fill h body (by rwa [isWritable] at h)
  | _ => exact h

/-- Numbers with too many digits have no JSON form. -/
theorem HasJsonForm.isWritable {d : Datum} (h : d.HasJsonForm) : d.isWritable = true := by
  induction h with
  | scalar h => exact h.isWritable
  | list _ ih => rwa [Datum.isWritable, areWritable_iff]
  | map hkeys _ ih =>
    rw [Datum.isWritable, entriesAreWritable_iff]
    exact fun e he ↦ ⟨(hkeys e he).isWritable, ih e he⟩

theorem HasJsonForm.isJsonValue {d : Datum} (h : d.HasJsonForm) : d.IsJsonValue :=
  h.mono fun _ hs ↦ hs.kind

end Datum

/-! ## Writing -/

/-- The least positive integer with too many digits. -/
def DigitLimit.overlong : Int := (Nat.pow 10 limit : Nat)

theorem Datum.isJsonValue_overlong : (Datum.scalar (.int DigitLimit.overlong)).IsJsonValue :=
  .scalar (by simp [Scalar.kind])

theorem Scalar.overlong_not_isWritable : ¬(Scalar.int DigitLimit.overlong).isWritable = true := by
  rw [Scalar.isWritable, decide_eq_true_iff, DigitLimit.overlong, Int.natAbs_natCast]
  exact Nat.lt_irrefl _

theorem DigitLimit.integerText_outcome (n : Int) :
    SucceedsIff ((Scalar.int n).isWritable = true) .writing (fun _ ↦ True) (integerText n) := by
  rw [Scalar.isWritable, decide_eq_true_iff]
  unfold integerText
  split
  · next h => exact .error ⟨Nat.not_lt.mpr h, rfl⟩
  · next h => exact .ok ⟨Nat.not_le.mp h, trivial⟩

namespace Json

/-- What is known of whether values can be written: they can unless an integer has too many digits. -/
abbrev WritesUnless {α : Type} (writable : Bool) (x : Except WriteError α) : Prop :=
  SucceedsIff (writable = true) (.digitLimit .writing) (fun _ ↦ True) x

theorem integerText_eq_mapError (n : Int) :
    integerText n = (DigitLimit.integerText n).mapError .digitLimit := by
  unfold integerText
  cases DigitLimit.integerText n <;> rfl

theorem scalarText_writes (ascii : Bool) {s : Scalar} (h : s.kind ∉ [.date, .moment, .bytes]) :
    WritesUnless s.isWritable (scalarText ascii s) := by
  cases s with
  | date _ | moment _ | bytes _ => exact absurd (by simp [Scalar.kind]) h
  | int n =>
    rw [scalarText, integerText_eq_mapError]
    exact (DigitLimit.integerText_outcome n).mapError _
  | _ => exact .ok ⟨rfl, trivial⟩

theorem keyText_writes (ascii : Bool) {s : Scalar} (h : s.kind ∉ [.date, .moment, .bytes]) :
    WritesUnless s.isWritable (keyText ascii s) := by
  rw [keyText.eq_def]
  split
  · exact .ok ⟨rfl, trivial⟩
  · exact (scalarText_writes ascii h).returns fun _ _ ↦ trivial

theorem itemTexts_writes {style : Style} {depth : Nat} {items : List Datum}
    (h : ∀ d ∈ items, WritesUnless d.isWritable (valueText style depth d)) :
    WritesUnless (Datum.areWritable items) (itemTexts style depth items) := by
  induction items with
  | nil => exact .ok ⟨rfl, trivial⟩
  | cons d items ih =>
    obtain ⟨hd, hitems⟩ := List.forall_mem_cons.mp h
    rw [itemTexts, Datum.areWritable, WritesUnless, Bool.and_eq_true]
    exact hd.bind fun _ _ ↦ (ih hitems).returns fun _ _ ↦ trivial

theorem entryTexts_writes {style : Style} {depth : Nat} {entries : Fields}
    (hkeys : ∀ e ∈ entries, e.1.kind ∉ [.date, .moment, .bytes])
    (h : ∀ e ∈ entries, WritesUnless e.2.isWritable (valueText style depth e.2)) :
    WritesUnless (Datum.entriesAreWritable entries) (entryTexts style depth entries) := by
  induction entries with
  | nil => exact .ok ⟨rfl, trivial⟩
  | cons e entries ih =>
    obtain ⟨hkey, hkeys⟩ := List.forall_mem_cons.mp hkeys
    obtain ⟨he, hentries⟩ := List.forall_mem_cons.mp h
    rw [entryTexts, Datum.entriesAreWritable, WritesUnless, Bool.and_eq_true, Bool.and_eq_true,
      and_assoc]
    exact (keyText_writes style.ascii hkey).bind fun _ _ ↦ he.bind fun _ _ ↦
      (ih hkeys hentries).returns fun _ _ ↦ trivial

theorem valueText_writes (style : Style) {d : Datum} (h : d.IsJsonValue) (depth : Nat) :
    WritesUnless d.isWritable (valueText style depth d) := by
  induction h generalizing depth with
  | scalar h => exact scalarText_writes style.ascii h
  | list _ ih =>
    rw [valueText]
    exact (itemTexts_writes fun d hd ↦ ih d hd _).returns fun _ _ ↦ trivial
  | map hkeys _ ih =>
    rw [valueText]
    exact (entryTexts_writes hkeys fun e he ↦ ih e he _).returns fun _ _ ↦ trivial

/-- JSON values are printed unless an integer in them has too many digits. -/
theorem print_writes (style : Style) {d : Datum} (h : d.IsJsonValue) :
    WritesUnless d.isWritable (print style d) :=
  valueText_writes style h 0

/-- Data with a JSON form can be printed. -/
theorem print_succeeds (style : Style) {d : Datum} (h : d.HasJsonForm) :
    HasResult (print style d) :=
  (print_writes style h.isJsonValue).succeeds h.isWritable

end Json

end ScriptDefs
