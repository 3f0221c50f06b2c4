import Mathlib.Data.List.Basic
import ScriptDefs.Data.Field

/-!
# Laws of fields

Look-up in the entries of an object, and for every reader of a field the value it gives when the
field holds what it asks for. Names of fields are told apart by their strings.
-/

namespace ScriptDefs

/-! ## Results -/

section Results

variable {ε φ α β : Type}

/-- A result is handed on. -/
@[simp] theorem ok_bind (a : α) (f : α → Except ε β) : (.ok a >>= f) = f a := rfl

/-- An error ends a computation. -/
@[simp] theorem error_bind (e : ε) (f : α → Except ε β) : (.error e >>= f) = .error e := rfl

/-- The computation that only gives a result. -/
@[simp] theorem pure_eq_ok (a : α) : (pure a : Except ε α) = .ok a := rfl

@[simp] theorem mapError_ok (f : ε → φ) (a : α) :
    Except.mapError f (.ok a : Except ε α) = .ok a := rfl

@[simp] theorem mapError_error (f : ε → φ) (e : ε) :
    Except.mapError f (.error e : Except ε α) = .error (f e) := rfl

/-- Results do not depend on the kind of errors. -/
theorem mapError_eq_ok {x : Except ε α} {f : ε → φ} {a : α} :
    x.mapError f = .ok a ↔ x = .ok a := by
  cases x <;> simp

/-- A computation in two steps has a result when both steps have one. -/
theorem bind_eq_ok {x : Except ε α} {f : α → Except ε β} {b : β} :
    (x >>= f) = .ok b ↔ ∃ a, x = .ok a ∧ f a = .ok b := by
  cases x with
  | error e => simp
  | ok a => simp

end Results

/-! ## Names -/

theorem Text.ofString_injective : Function.Injective Text.ofString := by
  intro s t h
  apply String.toList_inj.mp
  exact List.map_injective_iff.mpr (fun _ _ h ↦ CodePoint.scalar.inj h) h

/-- Texts of strings are equal when the strings are. -/
@[simp] theorem Text.ofString_inj {s t : String} : Text.ofString s = Text.ofString t ↔ s = t :=
  Text.ofString_injective.eq_iff

namespace Fields

/-! ## Look-up -/

@[simp] theorem get?_nil (key : Text) : Fields.get? [] key = none := rfl

/-- The first entry under a key counts. -/
@[simp] theorem get?_cons (k : Scalar) (v : Datum) (fields : Fields) (key : Text) :
    Fields.get? ((k, v) :: fields) key =
      if k = .text key then some v else Fields.get? fields key := by
  unfold Fields.get?
  rw [List.lookup_cons]
  by_cases h : k = .text key
  · simp [h]
  · have hne : (Scalar.text key == k) = false := by simpa using Ne.symm h
    simp [h, hne]

/-- The fields of an object are found if their names differ. -/
theorem get?_of_mem {α : Type} {write : α → Datum} {m : Assoc Text α} (hm : m.keys.Nodup)
    {key : Text} {a : α} (ha : (key, a) ∈ m) :
    Fields.get? ((m.mapValues write).map fun f ↦ (.text f.1, f.2)) key = some (write a) := by
  induction m with
  | nil => cases ha
  | cons e m ih =>
    obtain ⟨k, b⟩ := e
    obtain ⟨hk, hm⟩ := List.nodup_cons.mp hm
    rw [Assoc.mapValues, List.map_cons, List.map_cons, get?_cons]
    rcases List.mem_cons.mp ha with heq | hmem
    · cases heq
      rw [if_pos rfl]
    · have hne : Scalar.text k ≠ .text key := by
        intro heq
        cases heq
        exact hk (List.mem_map.mpr ⟨_, hmem, rfl⟩)
      rw [if_neg hne]
      exact ih hm hmem

/-- A flag has a field only when it is set. -/
@[simp] theorem get?_flagFields_cons (k : Text) (b : Bool) (flags : List (Text × Bool))
    (key : Text) :
    Fields.get? ((flagFields ((k, b) :: flags)).map fun f ↦ (.text f.1, f.2)) key =
      if k = key ∧ b = true then some (.bool true)
      else Fields.get? ((flagFields flags).map fun f ↦ (.text f.1, f.2)) key := by
  cases b <;> simp [flagFields]

@[simp] theorem get?_flagFields_nil (key : Text) :
    Fields.get? ((flagFields []).map fun f ↦ (.text f.1, f.2)) key = none := rfl

@[simp] theorem texts_cons (key : Text) (d : Datum) (fields : Fields) :
    Fields.texts ((.text key, d) :: fields) = (key, d) :: Fields.texts fields := rfl

theorem texts_cons_of_ne {k : Scalar} (hk : ∀ t, k ≠ .text t) (d : Datum) (fields : Fields) :
    Fields.texts ((k, d) :: fields) = Fields.texts fields := by
  cases k with
  | text t => exact absurd rfl (hk t)
  | _ => rfl

/-! ## Readers -/

variable {fields : Fields} {key : Text} {d : Datum}

theorem get_of_get? (h : fields.get? key = some d) : fields.get key = d := by
  rw [Fields.get, h, Option.getD_some]

variable (place : Text)

theorem require_of_get? (h : fields.get? key = some d) : fields.require place key = .ok d := by
  rw [Fields.require, h]

theorem requireText_of_get? {t : Text} (h : fields.get? key = some (.text t)) :
    fields.requireText place key = .ok t := by
  rw [Fields.requireText, require_of_get? place h]
  rfl

theorem optionalText_of_get? {t : Option Text} (h : fields.get? key = some (.ofOption t)) :
    fields.optionalText place key = .ok t := by
  rw [Fields.optionalText, get_of_get? h]
  cases t <;> rfl

/-- A flag may be written as false, or left out. -/
theorem flag_of_get? {b : Bool}
    (h : fields.get? key = some (.bool b) ∨
      fields.get? key = if b then some (.bool true) else none) :
    fields.flag place key = .ok b := by
  unfold Fields.flag
  cases b <;> rcases h with h | h <;> rw [h] <;> rfl

theorem expectDef_of_get? {t : Text} (h : fields.get? "def" = some (.text t)) :
    fields.expectDef place t = .ok () := by
  rw [Fields.expectDef, get_of_get? h]
  exact if_pos rfl

theorem get_of_expectDef {t : Text} {u : Unit} (h : fields.expectDef place t = .ok u) :
    fields.get "def" = .text t := by
  unfold Fields.expectDef at h
  split at h
  · next hget =>
    split at h
    · next heq => rw [hget, heq]
    · cases h
  · cases h

theorem orEmptyText_of_get? (h : fields.get? key = some d) :
    fields.orEmptyText key = d.orEmptyText := by
  rw [Fields.orEmptyText, get_of_get? h]

variable (fieldPlace : Text)

theorem optionalMap_of_get? {entries : Fields} (h : fields.get? key = some (.map entries)) :
    fields.optionalMap key fieldPlace = .ok entries := by
  rw [Fields.optionalMap, h]
  rfl

theorem optionalList_of_get? {items : List Datum} (h : fields.get? key = some (.list items)) :
    fields.optionalList key fieldPlace = .ok items := by
  rw [Fields.optionalList, h]
  rfl

end Fields

/-! ## Numbers, values and descriptions -/

namespace Datum

/-- A number or null. -/
def IsCost : Datum → Prop
  | .null | .int _ | .float _ => True
  | _ => False

/-- A number, a text or null. -/
def IsConstantValue : Datum → Prop
  | .null | .int _ | .float _ | .text _ => True
  | _ => False

/-- A name or null. -/
def IsNameOrNull : Datum → Prop
  | .null | .text _ => True
  | _ => False

/-- A text. -/
def IsText : Datum → Prop
  | .text _ => True
  | _ => False

theorem isNameOrNull_ofOption (t : Option Text) : (Datum.ofOption t).IsNameOrNull := by
  cases t <;> trivial

theorem isNameOrNull_iff {d : Datum} : d.IsNameOrNull ↔ ∃ t, d = .ofOption t := by
  constructor
  · intro h
    unfold IsNameOrNull at h
    split at h
    · exact ⟨none, rfl⟩
    · next t => exact ⟨some t, rfl⟩
    · cases h
  · rintro ⟨t, rfl⟩
    exact isNameOrNull_ofOption t

@[simp] theorem isText_text (t : Text) : (Datum.text t).IsText := trivial

theorem isText_iff {d : Datum} : d.IsText ↔ ∃ t, d = .text t := by
  constructor
  · intro h
    unfold IsText at h
    split at h
    · exact ⟨_, rfl⟩
    · cases h
  · rintro ⟨t, rfl⟩
    trivial

theorem eq_text_of_toText? {d : Datum} {t : Text} (h : d.toText? = some t) : d = .text t := by
  unfold toText? at h
  split at h
  · rw [Option.some.inj h]
  · cases h

/-- A text counts as it is, even if it is empty. -/
theorem IsText.orEmptyText {d : Datum} (h : d.IsText) : d.orEmptyText = d := by
  obtain ⟨t, rfl⟩ := isText_iff.mp h
  cases t <;> rfl

end Datum

namespace Fields

variable {fields : Fields} {d : Datum} (place : Text)

theorem numberOrNull_of_get? {key : Text} (h : fields.get? key = some d) (hd : d.IsCost) :
    fields.numberOrNull place key = .ok d := by
  rw [Fields.numberOrNull, get_of_get? h]
  match d, hd with
  | .null, _ => rfl
  | .int _, _ => rfl
  | .float _, _ => rfl

theorem constantValue_of_get? (h : fields.get? "value" = some d) (hd : d.IsConstantValue) :
    fields.constantValue place = .ok d := by
  rw [Fields.constantValue, get_of_get? h]
  match d, hd with
  | .null, _ => rfl
  | .int _, _ => rfl
  | .float _, _ => rfl
  | .text _, _ => rfl

end Fields

/-! ## Items and members -/

/-- Items of an array read in turn, each at its own place, from an index on. -/
def readEach {α : Type} (read : Text → Datum → Except ShapeError α) (place : Text) (index : Nat) :
    List Datum → Except ShapeError (List α)
  | [] => .ok []
  | d :: rest => do
    let a ← read (itemPlace place index) d
    return a :: (← readEach read place (index + 1) rest)

section Members

variable {α : Type} (read : Text → Datum → Except ShapeError α) (place : Text)

/-- A member is read before those that follow it. -/
theorem readMembers_cons (key : Text) (d : Datum) (fields : Fields) :
    readMembers read place ((.text key, d) :: fields) = do
      let a ← read (memberPlace place key) d
      return (key, a) :: (← readMembers read place fields) := by
  rw [readMembers, Fields.texts_cons, List.mapM_cons]
  simp only [bind_assoc, pure_bind]
  rfl

/-- An entry whose key is no text is passed over. -/
theorem readMembers_cons_of_ne {k : Scalar} (hk : ∀ t, k ≠ .text t) (d : Datum) (fields : Fields) :
    readMembers read place ((k, d) :: fields) = readMembers read place fields := by
  rw [readMembers, readMembers, Fields.texts_cons_of_ne hk]

end Members

section Written

variable {α : Type} {read : Text → Datum → Except ShapeError α} {write : α → Datum}

/-- Values that can be read back one by one can be read back as an array. -/
theorem readEach_map {as : List α} (h : ∀ a ∈ as, ∀ place, read place (write a) = .ok a)
    (place : Text) (index : Nat) : readEach read place index (as.map write) = .ok as := by
  induction as generalizing index with
  | nil => rfl
  | cons a as ih =>
    have ha := h a List.mem_cons_self (itemPlace place index)
    have has := ih (fun b hb ↦ h b (List.mem_cons_of_mem a hb)) (index + 1)
    simp [readEach, ha, has]

/-- Values that can be read back one by one can be read back as the members of an object, with the
keys in their order. -/
theorem readMembers_mapValues {m : Assoc Text α}
    (h : ∀ e ∈ m, ∀ place, read place (write e.2) = .ok e.2) (place : Text) :
    readMembers read place ((m.mapValues write).map fun f ↦ (.text f.1, f.2)) = .ok m := by
  induction m with
  | nil => rfl
  | cons e m ih =>
    have he := h e List.mem_cons_self (memberPlace place e.1)
    have hm := ih fun b hb ↦ h b (List.mem_cons_of_mem e hb)
    rw [Assoc.mapValues, List.map_cons, List.map_cons, readMembers_cons, he]
    rw [Assoc.mapValues] at hm
    rw [ok_bind, hm]
    rfl

/-- What holds of values that can be read back holds of all items of an array that can be read. -/
theorem forall_of_readEach_map {Q : α → Prop}
    (h : ∀ a place b, read place (write a) = .ok b → Q a) {as bs : List α} {place : Text}
    {index : Nat} (hread : readEach read place index (as.map write) = .ok bs) : ∀ a ∈ as, Q a := by
  induction as generalizing index bs with
  | nil => exact List.forall_mem_nil _
  | cons a as ih =>
    obtain ⟨b, hb, hread⟩ := bind_eq_ok.mp hread
    obtain ⟨bs', hbs, _⟩ := bind_eq_ok.mp hread
    exact List.forall_mem_cons.mpr ⟨h a _ b hb, ih hbs⟩

/-- What holds of values that can be read back holds of all members of an object that can be
read. -/
theorem forall_of_readMembers_mapValues {Q : α → Prop}
    (h : ∀ a place b, read place (write a) = .ok b → Q a) {m m' : Assoc Text α} {place : Text}
    (hread : readMembers read place ((m.mapValues write).map fun f ↦ (.text f.1, f.2)) = .ok m') :
    ∀ e ∈ m, Q e.2 := by
  induction m generalizing m' with
  | nil => exact List.forall_mem_nil _
  | cons e m ih =>
    rw [Assoc.mapValues, List.map_cons, List.map_cons, readMembers_cons] at hread
    obtain ⟨b, hb, hread⟩ := bind_eq_ok.mp hread
    obtain ⟨rest, hrest, _⟩ := bind_eq_ok.mp hread
    exact List.forall_mem_cons.mpr ⟨h e.2 _ b hb, ih hrest⟩

end Written

end ScriptDefs
