import ScriptDefs.Proofs.Patch.Edit
import ScriptDefs.Proofs.Patch.Rewording

/-!
# Patches that change nothing

A patch restates data if its path leads to the value that it puts there. Such patches apply, and
leave the data as it is, so that a model overridden with them is the one that is read back from its
plain form.
-/

namespace ScriptDefs

/-- A key bound to the value that it has already. -/
theorem Assoc.put_of_lookup {α β : Type} [DecidableEq α] {key : α} {value : β} {m : Assoc α β}
    (h : List.lookup key m = some value) : put key value m = m := by
  induction m with
  | nil => cases h
  | cons e m ih =>
    obtain ⟨k, v⟩ := e
    rw [lookup_cons_eq] at h
    rw [put]
    split at h
    · next hk =>
      cases h
      rw [if_pos hk]
    · next hk => rw [if_neg hk, ih h]

namespace Datum

/-- A part put where it is already. -/
theorem withPart_of_part? {s : Segment} {d part : Datum} (h : d.part? s = some part) :
    d.withPart s part = d := by
  cases s with
  | key k =>
    cases d with
    | map entries => exact congrArg map (Assoc.put_of_lookup h)
    | _ => rfl
  | index n =>
    cases d with
    | list items =>
      obtain ⟨hn, rfl⟩ := List.getElem?_eq_some_iff.mp h
      exact congrArg list (List.set_getElem_self hn)
    | _ => rfl

/-- A part put where its path leads to it already. -/
theorem putAt_of_at? {path : List Segment} {d part : Datum} (h : d.at? path = some part) :
    d.putAt path part = d := by
  induction path generalizing d with
  | nil => exact (Option.some.inj h).symm
  | cons s path ih =>
    rw [at?_cons, Option.bind_eq_some_iff] at h
    obtain ⟨inner, hinner, h⟩ := h
    rw [putAt_cons_of_part? hinner, ih h, withPart_of_part? hinner]

/-- A part can be put where a path leads to one. -/
theorem fits_of_at? {s : Segment} {path : List Segment} {d part : Datum}
    (h : d.at? (s :: path) = some part) : d.Fits (s :: path) := by
  induction path generalizing s d with
  | nil =>
    rw [at?_cons, Option.bind_eq_some_iff] at h
    obtain ⟨inner, hinner, _⟩ := h
    exact accepts_of_part? hinner
  | cons next path ih =>
    rw [at?_cons, Option.bind_eq_some_iff] at h
    obtain ⟨inner, hinner, h⟩ := h
    exact ⟨inner, hinner, ih h⟩

end Datum

namespace Patch

/-- The path of a patch leads to the value that the patch puts there. -/
structure Restates (p : Patch) (data : Datum) : Prop where
  path_ne : p.path ≠ []
  value : data.at? p.path = some p.value

/-- A patch that restates data applies, and changes nothing. -/
theorem Restates.apply {p : Patch} {data : Datum} (h : p.Restates data) :
    p.apply data = .ok data := by
  obtain ⟨s, path, hpath⟩ := List.exists_cons_of_ne_nil h.path_ne
  have hfits : data.Fits p.path := by
    rw [hpath]
    exact Datum.fits_of_at? (hpath ▸ h.value)
  exact apply_eq_ok.mpr ⟨hfits, (Datum.putAt_of_at? h.value).symm⟩

/-- Patches that restate data apply in turn, and change nothing. -/
theorem applyAll_of_restates {patches : List Patch} {data : Datum}
    (h : ∀ p ∈ patches, p.Restates data) : applyAll patches data = .ok data := by
  induction patches with
  | nil => rfl
  | cons p patches ih =>
    obtain ⟨hp, hpatches⟩ := List.forall_mem_cons.mp h
    rw [applyAll_cons, hp.apply, ok_bind, ih hpatches]

end Patch

/-- A model that can be read back stays as it is under patches that restate its plain form. -/
theorem override_of_restates {α : Type} {write : α → Datum} {read : Datum → Except ShapeError α}
    {patches : List Patch} {a : α} (h : ∀ p ∈ patches, p.Restates (write a))
    (hread : read (write a) = .ok a) : override write read patches a = .ok a := by
  by_cases hpatches : patches = []
  · subst hpatches
    rfl
  · rw [override_of_ne hpatches, Patch.applyAll_of_restates h, mapError_ok, ok_bind, hread,
      mapError_ok]

end ScriptDefs
