import ScriptDefs.Proofs.Data.Json.RoundTrip
import ScriptDefs.Proofs.Number.LeadingInteger

/-!
# Data from JSON text

Whatever a JSON text holds, what is read from it has a JSON form and can be written again: only scalars,
lists and objects under different keys come from it, and no integer with more digits than are converted.
-/

namespace ScriptDefs

namespace Assoc

variable {α β κ : Type} [DecidableEq α] [DecidableEq κ]

/-- Keys can be renamed before or after they are bound, if different keys stay different. -/
theorem map_put {f : α → κ} (hf : Function.Injective f) (key : α) (value : β) (m : Assoc α β) :
    (put key value m).map (fun e ↦ (f e.1, e.2)) = put (f key) value (m.map fun e ↦ (f e.1, e.2)) := by
  induction m with
  | nil => rfl
  | cons e m ih =>
    obtain ⟨k, v⟩ := e
    rw [put, List.map_cons, put]
    by_cases hk : k = key
    · rw [if_pos hk, if_pos (congrArg f hk), List.map_cons]
    · rw [if_neg hk, if_neg fun heq ↦ hk (hf heq), List.map_cons, ih]

theorem map_ofList {f : α → κ} (hf : Function.Injective f) (entries : List (α × β)) :
    (ofList entries).map (fun e ↦ (f e.1, e.2)) = ofList (entries.map fun e ↦ (f e.1, e.2)) := by
  induction entries using List.reverseRecOn with
  | nil => rfl
  | append_singleton entries e ih =>
    rw [ofList_concat, map_put hf, ih, List.map_append, List.map_singleton, ofList_concat]

end Assoc

namespace Json

/-- Data that can be written as JSON text. -/
structure HasText (d : Datum) : Prop where
  isJson : d.IsJson fun _ ↦ True
  isWritable : d.isWritable = true

/-- What is read is data that can be written, or an error. -/
abbrev Gives {α : Type} (Q : α → Prop) (x : Except ReadError (α × Text)) : Prop :=
  Outcome (fun r ↦ Q r.1) (fun _ ↦ True) x

/-! ## Scalars -/

theorem HasText.scalar {s : Scalar} (hkind : s.kind ∉ [.date, .moment, .bytes])
    (h : s.isWritable = true) : HasText (.scalar s) where
  isJson := .scalar hkind fun _ _ ↦ trivial
  isWritable := by
    rw [Datum.isWritable]
    exact h

theorem spanDigits_lt (t : Text) : ∀ d ∈ (Text.spanDigits CodePoint.asciiDigit? t).1, d < 10 := by
  rw [Text.spanDigits_fst, Text.digitRun]
  intro d hd
  obtain ⟨c, _, hc⟩ := List.mem_filterMap.mp hd
  unfold CodePoint.asciiDigit? at hc
  split at hc
  · cases hc
    omega
  · cases hc

theorem readWhole?_lt {t rest : Text} {ds : List Nat} (h : readWhole? t = some (ds, rest)) :
    ∀ d ∈ ds, d < 10 := by
  have hspan := spanDigits_lt t
  unfold readWhole? at h
  split at h
  · cases h
  · cases h
    simp
  · next heq =>
    cases h
    rw [heq] at hspan
    exact hspan

/-- Digits denote a number below the power of ten with as many zeros. -/
theorem numberOf_lt {ds : List Nat} (h : ∀ d ∈ ds, d < 10) :
    Text.numberOf 10 ds < Nat.pow 10 ds.length := by
  rw [Text.numberOf_eq_ofDigits, ← List.length_reverse]
  exact Nat.ofDigits_lt_base_pow_length (by decide) (by simpa using h)

/-- An integer is converted only if it does not have too many digits. -/
theorem numberOf_gives {ds : List Nat} {n : Nat} (h : ∀ d ∈ ds, d < 10)
    (hn : DigitLimit.numberOf ds = .ok n) (negative : Bool) :
    HasText (.int (Text.signedInt negative n)) := by
  unfold DigitLimit.numberOf at hn
  split at hn
  · cases hn
  · next hlength =>
    cases hn
    have hpow (m : Nat) (hm : ds.length ≤ m) : Text.numberOf 10 ds < Nat.pow 10 m :=
      Nat.lt_of_lt_of_le (numberOf_lt h) (Nat.pow_le_pow_right (by decide) hm)
    have hlt := hpow DigitLimit.limit (Nat.le_of_not_lt hlength)
    apply HasText.scalar
    · simp [Scalar.kind]
    · rw [isWritable_int_iff]
      cases negative <;> simpa [Text.signedInt] using hlt

theorem readNumber_gives (t : Text) : Gives (fun s ↦ HasText (.scalar s)) (readNumber t) := by
  unfold readNumber
  split
  split
  · exact .error trivial
  next whole rest hwhole =>
  split
  split
  split
  · split
    · next n hn => exact .ok (numberOf_gives (readWhole?_lt hwhole) hn _)
    · exact .error trivial
  · exact .ok (.scalar (by simp [Scalar.kind]) rfl)

theorem readScalar_gives (t : Text) : Gives (fun s ↦ HasText (.scalar s)) (readScalar t) := by
  unfold readScalar
  split
  · split
    · exact .ok (.scalar (by simp [Scalar.kind]) rfl)
    · exact .error trivial
  split
  · next word s hfind =>
    have hword : (word, s) ∈ words := List.mem_of_find?_eq_some hfind
    have hall : ∀ w ∈ words, w.2.kind ∉ [.date, .moment, .bytes] ∧ w.2.isWritable = true := by decide
    exact .ok (.scalar (hall _ hword).1 (hall _ hword).2)
  · exact readNumber_gives t

/-! ## Lists and objects -/

theorem HasText.list {items : List Datum} (h : ∀ d ∈ items, HasText d) : HasText (.list items) where
  isJson := .list fun d hd ↦ (h d hd).isJson
  isWritable := by
    rw [Datum.isWritable, Datum.areWritable_iff]
    exact fun d hd ↦ (h d hd).isWritable

theorem HasText.of_mem {items : List Datum} (h : HasText (.list items)) : ∀ d ∈ items, HasText d := by
  intro d hd
  constructor
  · cases h.isJson with
    | list hitems => exact hitems d hd
  · exact (Datum.inherited_isWritable.list items).mp h.isWritable d hd

/-- What is found under a key of an object can be written with it. -/
theorem HasText.get? {entries : Fields} (h : HasText (.map entries)) {key : Text} {d : Datum}
    (hd : entries.get? key = some d) : HasText d := by
  refine ⟨?_, Datum.inherited_isWritable.get? h.isWritable hd⟩
  have hjson := h.isJson
  generalize hmap : Datum.map entries = object at hjson
  cases hjson with
  | scalar _ _ => cases hmap
  | list _ => cases hmap
  | @object fields _ _ hfields =>
    cases hmap
    obtain ⟨before, after, heq, _⟩ := List.lookup_eq_some_iff.mp hd
    have hmem : (Scalar.text key, d) ∈ fields.map fun f ↦ (Scalar.text f.1, f.2) := by
      rw [heq]
      simp
    obtain ⟨f, hf, hfield⟩ := List.mem_map.mp hmem
    cases hfield
    exact hfields f hf

/-- Entries with texts as keys make up an object, where the last value of each key counts. -/
theorem HasText.ofList {fields : List (Text × Datum)} (h : ∀ f ∈ fields, HasText f.2) :
    HasText (.map (Assoc.ofList (fields.map fun f ↦ (Scalar.text f.1, f.2)))) := by
  have hinjective : Function.Injective Scalar.text := fun _ _ heq ↦ Scalar.text.inj heq
  have hall : ∀ f ∈ Assoc.ofList fields, HasText f.2 := fun f hf ↦ h f (Assoc.mem_of_mem_ofList hf)
  rw [← Assoc.map_ofList hinjective]
  constructor
  · exact .object (Assoc.nodup_keys_ofList fields) (fun _ _ ↦ trivial) fun f hf ↦ (hall f hf).isJson
  · rw [Datum.isWritable, Datum.entriesAreWritable_iff, List.forall_mem_map]
    exact fun f hf ↦ ⟨rfl, (hall f hf).isWritable⟩

/-- Entries as they are read: their keys are texts. -/
def AreFields (entries : List (Scalar × Datum)) : Prop :=
  ∃ fields : List (Text × Datum), entries = (fields.map fun f ↦ (Scalar.text f.1, f.2)) ∧
    ∀ f ∈ fields, HasText f.2

theorem AreFields.cons {key : Text} {d : Datum} {entries : List (Scalar × Datum)} (hd : HasText d)
    (h : AreFields entries) : AreFields ((.text key, d) :: entries) := by
  obtain ⟨fields, rfl, hfields⟩ := h
  exact ⟨(key, d) :: fields, rfl, List.forall_mem_cons.mpr ⟨hd, hfields⟩⟩

theorem areFields_nil : AreFields [] := ⟨[], rfl, List.forall_mem_nil _⟩

/-! ## Values -/

section Steps

variable {fuel : Nat} (hvalue : ∀ t, Gives HasText (readValue fuel t))
include hvalue

theorem readItems_gives (hitems : ∀ t, Gives (fun items ↦ ∀ d ∈ items, HasText d) (readItems fuel t))
    (t : Text) : Gives (fun items ↦ ∀ d ∈ items, HasText d) (readItems (fuel + 1) t) := by
  rw [readItems]
  apply (hvalue t).bind
  rintro ⟨d, rest⟩ hd
  dsimp only
  split
  · exact .ok (List.forall_mem_singleton.mpr hd)
  · exact (hitems _).bind fun _ hrest ↦ .ok (List.forall_mem_cons.mpr ⟨hd, hrest⟩)
  · exact .error trivial

theorem readEntries_gives (hentries : ∀ t, Gives AreFields (readEntries fuel t)) (t : Text) :
    Gives AreFields (readEntries (fuel + 1) t) := by
  unfold readEntries
  split
  · split
    · exact .error trivial
    split
    · apply (hvalue _).bind
      rintro ⟨d, rest⟩ hd
      dsimp only
      split
      · exact .ok (areFields_nil.cons hd)
      · exact (hentries _).bind fun _ hrest ↦ .ok (hrest.cons hd)
      · exact .error trivial
    · exact .error trivial
  · exact .error trivial

end Steps

/-- Within any number of calls, what is read can be written again. -/
theorem reading_gives (fuel : Nat) :
    (∀ t, Gives HasText (readValue fuel t)) ∧
    (∀ t, Gives (fun items ↦ ∀ d ∈ items, HasText d) (readItems fuel t)) ∧
    ∀ t, Gives AreFields (readEntries fuel t) := by
  -- jointly, as the readers of values, items and entries call one another with one call less
  induction fuel with
  | zero => exact ⟨fun _ ↦ .error trivial, fun _ ↦ .error trivial, fun _ ↦ .error trivial⟩
  | succ fuel ih =>
    obtain ⟨hvalue, hitems, hentries⟩ := ih
    refine ⟨fun t ↦ ?_, readItems_gives hvalue hitems, readEntries_gives hvalue hentries⟩
    unfold readValue
    split
    · split
      · exact .ok (.list (List.forall_mem_nil _))
      · exact (hitems _).bind fun _ hlist ↦ .ok (.list hlist)
    · split
      · have hempty : HasText (.map []) :=
          HasText.ofList (List.forall_mem_nil fun f : Text × Datum ↦ HasText f.2)
        exact .ok hempty
      · apply (hentries _).bind
        rintro ⟨_, rest⟩ ⟨fields, rfl, hfields⟩
        exact .ok (HasText.ofList hfields)
    · exact (readScalar_gives _).bind fun _ hs ↦ .ok hs

/-- Data that is read from a JSON text can be written as JSON text. -/
theorem hasText_of_read {t : Text} {d : Datum} (h : read t = .ok d) : HasText d := by
  have hread : Outcome HasText (fun _ ↦ True) (read t) := by
    unfold read
    apply ((reading_gives _).1 _).bind
    rintro ⟨d, rest⟩ hd
    dsimp only
    split
    · exact .ok hd
    · exact .error trivial
  exact hread.of_ok h

end Json

end ScriptDefs
