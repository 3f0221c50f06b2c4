import ScriptDefs.Proofs.Patch.Described
import ScriptDefs.Proofs.Patch.Place

/-!
# Patches as edits

A patch can be carried out in place: its path is followed without a change, and only then one
container is replaced. This gives the same as building the patched value, and a patch that does not
apply leaves everything as it was. Patches one after the other, carried out on a copy, never change
what was copied.
-/

namespace ScriptDefs

namespace Datum

/-- The part that a path leads to, `depth` steps having been taken before. -/
def follow (depth : Nat) : List Segment → Datum → Except PathFault Datum
  | [], d => .ok d
  | .key k :: path, .map entries =>
    match Fields.get? entries k with
    | none => .error (.missingKey k depth)
    | some part => follow (depth + 1) path part
  | .index n :: path, .list items =>
    match items[n]? with
    | none => .error (.stepOutOfRange n depth)
    | some part => follow (depth + 1) path part
  | _ :: _, _ => .error .notIndexable

/-- A value is put where a path leads by replacing the container at the end of the path. -/
theorem assignFrom_eq_follow (value : Datum) {depth : Nat} {s last : Segment}
    {path init : List Segment} (hpath : s :: path = init ++ [last]) (d : Datum) :
    assignFrom value depth s path d = (do
      let container ← follow depth init d
      let container' ← assign value last container
      return d.putAt init container') := by
  -- along the way to the container, with the last segment kept apart
  induction init generalizing depth s path d with
  | nil =>
    obtain ⟨rfl, rfl⟩ : s = last ∧ path = [] := by simpa using hpath
    rw [assignFrom, follow, ok_bind]
    exact (bind_pure _).symm
  | cons t init ih =>
    rw [List.cons_append] at hpath
    obtain ⟨rfl, rfl⟩ := List.cons.inj hpath
    obtain ⟨next, tail, htail⟩ : ∃ next tail, init ++ [last] = next :: tail := by
      cases init <;> exact ⟨_, _, rfl⟩
    rw [htail]
    cases s with
    | key k =>
      cases d with
      | map entries =>
        rw [assignFrom, follow]
        cases hpart : Fields.get? entries k with
        | none => rfl
        | some inner =>
          simp [ih htail.symm inner, putAt, part?, hpart, withPart]
      | _ => rfl
    | index n =>
      cases d with
      | list items =>
        rw [assignFrom, follow]
        cases hpart : items[n]? with
        | none => rfl
        | some inner =>
          simp [ih htail.symm inner, putAt, part?, hpart, withPart]
      | _ => rfl

end Datum

namespace Patch

/-- A patch carried out in place. -/
def edit (p : Patch) : EStateM PatchFailure Datum Unit := do
  match p.path.getLast? with
  | none => throw (p.failure .emptyPath)
  | some last =>
    match (← get).follow 0 p.path.dropLast with
    | .error fault => throw (p.failure fault)
    | .ok container =>
      match Datum.assign p.value last container with
      | .error fault => throw (p.failure fault)
      | .ok container' => modify fun d ↦ d.putAt p.path.dropLast container'

/-- Patches carried out in place, one after the other. -/
def editAll (patches : List Patch) : EStateM PatchFailure Datum Unit := forM patches edit

/-- Patches carried out on a copy, which is the result. -/
def editCopy (patches : List Patch) : EStateM PatchFailure Datum Datum := do
  match (editAll patches).run (← get) with
  | .ok _ d => return d
  | .error e _ => throw e

/-! ## One patch -/

variable {p : Patch} {data d : Datum}

/-- A patch applies where its path fits, and puts its value there. -/
theorem apply_eq_ok : p.apply data = .ok d ↔ data.Fits p.path ∧ d = data.putAt p.path p.value := by
  cases hpath : p.path with
  | nil => simp [apply, hpath, Datum.Fits]
  | cons s path =>
    have hassign : Datum.assignFrom p.value 0 s path data = .ok d ↔
        data.Fits (s :: path) ∧ d = data.putAt (s :: path) p.value := Datum.assignFrom_eq_ok
    rw [apply_of_path p hpath, ← hassign]
    cases Datum.assignFrom p.value 0 s path data <;> simp

/-- A patch that does not apply fails with a fault of its own. -/
theorem apply_error {e : PatchFailure} (h : p.apply data = .error e) :
    ∃ fault, e = p.failure fault := by
  unfold apply at h
  dsimp only at h
  split at h
  · cases h
  · next fault _ => exact ⟨fault, (Except.error.inj h).symm⟩

/-- The failure of a patch that does not apply: an error that ends with its description, or that one of
its integers has too many digits. -/
def FailsBy (p : Patch) (e : PatchFailure) : Prop :=
  (p.toDatum.isWritable = true ∧
    ∃ fault t, p.describe = .ok t ∧ e = .refused (.notApplied fault t)) ∨
  (p.toDatum.isWritable = false ∧ e = .undescribed (.digitLimit .writing))

theorem failsBy_of_apply (hvalue : p.value.IsJsonValue) {e : PatchFailure}
    (h : p.apply data = .error e) : p.FailsBy e := by
  obtain ⟨fault, rfl⟩ := apply_error h
  have hdescribe := describe_writes hvalue
  unfold failure
  cases ht : p.describe with
  | ok t => exact .inl ⟨(hdescribe.of_ok ht).1, fault, t, ht, rfl⟩
  | error w =>
    obtain ⟨hwritable, rfl⟩ := hdescribe.of_error ht
    exact .inr ⟨Bool.eq_false_iff.mpr hwritable, rfl⟩

/-- In place, a patch gives the patched value or changes nothing. -/
theorem edit_eq (p : Patch) (data : Datum) :
    p.edit.run data = match p.apply data with
      | .ok d => .ok () d
      | .error e => .error e data := by
  cases hlast : p.path.getLast? with
  | none =>
    have hpath : p.path = [] := List.getLast?_eq_none_iff.mp hlast
    simp only [edit, apply, hpath, List.getLast?_nil]
    rfl
  | some last =>
    obtain ⟨init, hinit⟩ := List.getLast?_eq_some_iff.mp hlast
    obtain ⟨s, path, hpath⟩ : ∃ s path, p.path = s :: path := by
      rw [hinit]
      cases init <;> exact ⟨_, _, rfl⟩
    rw [apply_of_path p hpath, Datum.assignFrom_eq_follow p.value (hpath.symm.trans hinit)]
    simp only [edit, hinit, List.getLast?_concat, List.dropLast_concat]
    rw [EStateM.run_bind]
    cases hfollow : Datum.follow 0 init data with
    | error fault => simp [hfollow]
    | ok container =>
      cases hassign : Datum.assign p.value last container with
      | error fault => simp [hfollow, hassign]
      | ok container' => simp [hfollow, hassign]

theorem edit_of_ok (h : p.apply data = .ok d) : p.edit.run data = .ok () d := by
  rw [edit_eq, h]

theorem edit_of_error {e : PatchFailure} (h : p.apply data = .error e) :
    p.edit.run data = .error e data := by
  rw [edit_eq, h]

/-! ## Patches in turn -/

variable {patches : List Patch}

@[simp] theorem applyAll_cons (p : Patch) (patches : List Patch) (data : Datum) :
    applyAll (p :: patches) data = (p.apply data >>= applyAll patches) := rfl

/-- Patches in turn fail with one of them that does not apply. -/
theorem applyAll_error {e : PatchFailure} (h : applyAll patches data = .error e) :
    ∃ d, ∃ p ∈ patches, p.apply d = .error e := by
  induction patches generalizing data with
  | nil => cases h
  | cons p patches ih =>
    rw [applyAll_cons] at h
    cases hp : p.apply data with
    | error e' =>
      rw [hp] at h
      cases h
      exact ⟨data, p, List.mem_cons_self, hp⟩
    | ok d' =>
      rw [hp] at h
      obtain ⟨d, q, hq, hfails⟩ := ih h
      exact ⟨d, q, List.mem_cons_of_mem _ hq, hfails⟩

/-- What the data and the values of all patches have in common, the patched data has too. -/
theorem applyAll_inherits {R : Datum → Prop} (hR : Datum.Inherited R)
    (hkey : ∀ t : Text, R (.text t)) (hdata : R data) (hpatches : ∀ p ∈ patches, R p.value)
    (h : applyAll patches data = .ok d) : R d := by
  induction patches generalizing data with
  | nil =>
    cases h
    exact hdata
  | cons p patches ih =>
    obtain ⟨hp, hpatches⟩ := List.forall_mem_cons.mp hpatches
    rw [applyAll_cons, bind_eq_ok] at h
    obtain ⟨d', happly, hrest⟩ := h
    obtain ⟨_, rfl⟩ := apply_eq_ok.mp happly
    exact ih (hR.putAt hkey hdata hp) hpatches hrest

theorem editAll_cons (p : Patch) (patches : List Patch) (data : Datum) :
    (editAll (p :: patches)).run data = match p.edit.run data with
      | .ok _ d => (editAll patches).run d
      | .error e d => .error e d := by
  rw [editAll, List.forM_cons, EStateM.run_bind, ← editAll]
  cases p.edit.run data <;> rfl

/-- In place, patches in turn end with the patched value. -/
theorem editAll_of_ok (h : applyAll patches data = .ok d) :
    (editAll patches).run data = .ok () d := by
  induction patches generalizing data with
  | nil =>
    cases h
    rfl
  | cons p patches ih =>
    rw [applyAll_cons, bind_eq_ok] at h
    obtain ⟨d', hp, hrest⟩ := h
    rw [editAll_cons, edit_of_ok hp]
    exact ih hrest

/-- In place, patches in turn stop at the first one that does not apply, after those before it. -/
theorem editAll_of_error {e : PatchFailure} (h : applyAll patches data = .error e) :
    ∃ done p rest d, patches = done ++ p :: rest ∧ applyAll done data = .ok d ∧
      p.apply d = .error e ∧ (editAll patches).run data = .error e d := by
  induction patches generalizing data with
  | nil => cases h
  | cons p patches ih =>
    rw [applyAll_cons] at h
    cases hp : p.apply data with
    | error e' =>
      rw [hp] at h
      cases h
      refine ⟨[], p, patches, data, rfl, rfl, hp, ?_⟩
      rw [editAll_cons, edit_of_error hp]
    | ok d' =>
      rw [hp] at h
      obtain ⟨done, q, rest, d, hpatches, hdone, hq, hrun⟩ := ih h
      refine ⟨p :: done, q, rest, d, by rw [hpatches, List.cons_append], ?_, hq, ?_⟩
      · rw [applyAll_cons, hp]
        exact hdone
      · rw [editAll_cons, edit_of_ok hp]
        exact hrun

/-- On a copy, patches in turn give the patched value or an error, and the original stays. -/
theorem editCopy_eq (patches : List Patch) (data : Datum) :
    (editCopy patches).run data = match applyAll patches data with
      | .ok d => .ok d data
      | .error e => .error e data := by
  rw [editCopy, EStateM.run_bind]
  cases h : applyAll patches data with
  | ok d => simp [editAll_of_ok h]
  | error e =>
    obtain ⟨_, _, _, d, _, _, _, hrun⟩ := editAll_of_error h
    simp [hrun]
    rfl

/-- A patch applies where its path leads to a container that accepts the last segment, and then it
changes the part at its path and nothing else. In place it has the same outcome, and changes nothing
if it does not apply. A patch with a JSON value that does not apply fails with an error that ends with its
description, but if an integer of the patch has too many digits, with that. Patches in turn, carried out
on a copy, have the outcome of one after the other, up to the first that does not apply, and the original
stays. -/
theorem apply_changes_only_path (p : Patch) (patches : List Patch) (data : Datum) :
    ((∃ d, p.apply data = .ok d) ↔
      ∃ init last container,
        p.path = init ++ [last] ∧ data.at? init = some container ∧ container.Accepts last) ∧
    (∀ d, p.apply data = .ok d →
      p.edit.run data = .ok () d ∧ Datum.ChangedAt p.path p.value data d) ∧
    (∀ e, p.apply data = .error e →
      p.edit.run data = .error e data ∧ (∃ fault, e = p.failure fault) ∧
      (p.value.IsJsonValue → p.FailsBy e)) ∧
    (∀ d, applyAll patches data = .ok d →
      (editAll patches).run data = .ok () d ∧ (editCopy patches).run data = .ok d data) ∧
    (∀ e, applyAll patches data = .error e →
      (∃ done q rest d, patches = done ++ q :: rest ∧ (editAll done).run data = .ok () d ∧
        q.edit.run d = .error e d ∧ (q.value.IsJsonValue → q.FailsBy e)) ∧
      (editCopy patches).run data = .error e data) := by
  refine ⟨?_, ?_, ?_, ?_, ?_⟩
  · rw [← Datum.fits_iff]
    constructor
    · rintro ⟨d, h⟩
      exact (apply_eq_ok.mp h).1
    · intro h
      exact ⟨_, apply_eq_ok.mpr ⟨h, rfl⟩⟩
  · intro d h
    obtain ⟨hfits, rfl⟩ := apply_eq_ok.mp h
    exact ⟨edit_of_ok h, Datum.changedAt_putAt hfits p.value⟩
  · intro e h
    exact ⟨edit_of_error h, apply_error h, fun hvalue ↦ failsBy_of_apply hvalue h⟩
  · intro d h
    exact ⟨editAll_of_ok h, by rw [editCopy_eq, h]⟩
  · intro e h
    obtain ⟨done, q, rest, d, hpatches, hdone, hq, _⟩ := editAll_of_error h
    refine ⟨⟨done, q, rest, d, hpatches, editAll_of_ok hdone, edit_of_error hq,
      fun hvalue ↦ failsBy_of_apply hvalue hq⟩, ?_⟩
    rw [editCopy_eq, h]

/-- Not every patch that does not apply fails with an error: one that is given an integer with too many
digits, under a key of an object that is not there, has no description. -/
theorem apply_fails_undescribed :
    ¬ ∀ (p : Patch) (data : Datum) (e : PatchFailure), p.value.IsJsonValue → data.IsJsonValue →
      p.apply data = .error e → ∃ r, e = .refused r := by
  intro h
  have hvalue : overlong.value.IsJsonValue := Datum.isJsonValue_overlong
  have hdata : (Datum.object []).IsJsonValue := .map (List.forall_mem_nil _) (List.forall_mem_nil _)
  have happly : overlong.apply (.object []) =
      .error (overlong.failure (.missingKey "functions" 0)) := rfl
  obtain ⟨r, hr⟩ := h overlong (.object []) _ hvalue hdata happly
  rcases failsBy_of_apply hvalue happly with ⟨hwritable, -⟩ | ⟨-, he⟩
  · exact overlong_not_isWritable hwritable
  · rw [he] at hr
    cases hr

end Patch

end ScriptDefs
