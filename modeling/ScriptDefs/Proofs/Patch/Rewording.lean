import ScriptDefs.Patch.Override
import ScriptDefs.Proofs.Data.Rewording
import ScriptDefs.Proofs.Patch.Place

/-!
# Patches on reworded data

A patch has no way to tell reworded values apart: it fails on both with the same fault, or leaves
both reworded at the same sites.
-/

namespace ScriptDefs

variable {old new : Text} {S : Sites}

namespace Datum

theorem Reworded.assign {x y : Datum} (h : Reworded old new S x y) (value : Datum) (s : Segment) :
    SameOutcome (Reworded old new S) (Datum.assign value s x) (Datum.assign value s y) := by
  cases h with
  | same => exact .refl (Reworded.same S) _
  | text => cases s <;> exact .error _
  | @list _ xs ys hlength h =>
    cases s with
    | key k => exact .error _
    | index n =>
      have hitems := Reworded.list_iff.mp (Reworded.list hlength h)
      rw [Datum.assign, Datum.assign, ← hlength]
      split
      · refine .ok (Reworded.list_iff.mpr ?_)
        rw [List.length_set]
        exact hitems.set (.same _ value)
      · exact .error _
  | @map _ f g hkeys h =>
    cases s with
    | key k =>
      have hfields := Reworded.map_iff.mp (Reworded.map hkeys h)
      exact .ok (Reworded.map_iff.mpr (hfields.put (.same _ value)))
    | index n => exact .error _

/-- A value is put into reworded values with the same outcome. -/
theorem Reworded.assignFrom {x y : Datum} (h : Reworded old new S x y) (value : Datum)
    (depth : Nat) (s : Segment) (path : List Segment) :
    SameOutcome (Reworded old new S) (Datum.assignFrom value depth s path x)
      (Datum.assignFrom value depth s path y) := by
  induction path generalizing S depth s x y with
  | nil =>
    rw [Datum.assignFrom, Datum.assignFrom]
    exact h.assign value s
  | cons next path ih =>
    cases h with
    | same => exact .refl (Reworded.same S) _
    | text => cases s <;> exact .error _
    | @list _ xs ys hlength h =>
      cases s with
      | key k => exact .error _
      | index n =>
        have hitems := Reworded.list_iff.mp (Reworded.list hlength h)
        rw [Datum.assignFrom, Datum.assignFrom]
        rcases hitems.getElem? n with ⟨hx, hy⟩ | ⟨a, b, hx, hy, hab⟩
        · rw [hx, hy]
          exact .error _
        · rw [hx, hy]
          refine (ih hab (depth + 1) next).bind fun a' b' hab' ↦ .ok (Reworded.list_iff.mpr ?_)
          rw [List.length_set]
          exact hitems.set hab'
    | @map _ f g hkeys h =>
      cases s with
      | key k =>
        have hfields : Fields.Reworded old new S f g :=
          Reworded.map_iff.mp (Reworded.map hkeys h)
        rw [Datum.assignFrom, Datum.assignFrom]
        rcases hfields.get? k with ⟨hx, hy⟩ | ⟨a, b, hx, hy, hab⟩
        · rw [hx, hy]
          exact .error _
        · rw [hx, hy]
          refine (ih hab (depth + 1) next).bind fun a' b' hab' ↦ .ok (Reworded.map_iff.mpr ?_)
          exact EntriesRelated.put hfields hab'
      | index n => exact .error _

end Datum

namespace Patch

/-- A patch applies to reworded values with the same outcome. -/
theorem apply_reworded {x y : Datum} (h : Datum.Reworded old new S x y) (p : Patch) :
    SameOutcome (Datum.Reworded old new S) (p.apply x) (p.apply y) := by
  cases hpath : p.path with
  | nil =>
    simp only [apply, hpath]
    exact .error _
  | cons s path =>
    rw [apply_of_path p hpath, apply_of_path p hpath]
    exact (h.assignFrom p.value 0 s path).mapError _

/-- Patches in turn apply to reworded values with the same outcome. -/
theorem applyAll_reworded {x y : Datum} (h : Datum.Reworded old new S x y)
    (patches : List Patch) :
    SameOutcome (Datum.Reworded old new S) (applyAll patches x) (applyAll patches y) := by
  induction patches generalizing x y with
  | nil => exact .ok h
  | cons p patches ih => exact (apply_reworded h p).bind fun x' y' h' ↦ ih h'

end Patch

/-! ## Overrides -/

section Override

variable {α : Type} {write : α → Datum} {read : Datum → Except ShapeError α}

/-- An override with patches writes, patches and reads. -/
theorem override_of_ne {patches : List Patch} (h : patches ≠ []) (a : α) :
    override write read patches a = (do
      let d ← (Patch.applyAll patches (write a)).mapError .patch
      (read d).mapError .shape) := by
  rw [override, if_neg (by simpa using h)]
  cases Patch.applyAll patches (write a) with
  | error e => rfl
  | ok d =>
    rw [mapError_ok, ok_bind]
    dsimp only
    cases read d <;> rfl

/-- Models with reworded plain forms are overridden with the same outcome, if their plain forms are
read with the same outcome. -/
theorem override_reworded
    (hread : ∀ x y, Datum.Reworded old new S x y →
      SameOutcome (FormsReworded old new S write) (read x) (read y))
    {a b : α} (h : FormsReworded old new S write a b) (patches : List Patch) :
    SameOutcome (FormsReworded old new S write) (override write read patches a)
      (override write read patches b) := by
  by_cases hpatches : patches = []
  · subst hpatches
    exact .ok h
  · rw [override_of_ne hpatches, override_of_ne hpatches]
    refine ((Patch.applyAll_reworded h patches).mapError _).bind fun x y hxy ↦ ?_
    exact (hread x y hxy).mapError _

end Override

end ScriptDefs
