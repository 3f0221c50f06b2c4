import ScriptDefs.Proofs.Data.Outcome

/-!
# Properties of plain data and of all its parts

Some properties hold of a collection exactly when they hold of all that is in it: that everything
can be written, say. Readers of fields take parts of an object, or show them in their errors, so
such properties pass on to what they give.
-/

namespace ScriptDefs

namespace Datum

/-- A property that collections have when all their parts have it, and that the marks and the truth
values of plain forms have. -/
structure Inherited (R : Datum → Prop) : Prop where
  list : ∀ items, R (.list items) ↔ ∀ d ∈ items, R d
  map : ∀ entries, R (.map entries) ↔ ∀ e ∈ entries, R (.scalar e.1) ∧ R e.2
  null : R .null
  bool : ∀ b, R (.bool b)
  string : ∀ s : String, R (.text s)

/-- All data has the property that asks for nothing. -/
theorem inherited_true : Inherited fun _ ↦ True where
  list _ := by simp
  map _ := by simp
  null := trivial
  bool _ := trivial
  string _ := trivial

/-- Data that reading takes over as it is. -/
def IsGiven (d : Datum) : Prop := d.orEmptyText = d

theorem isGiven_orEmptyText (d : Datum) : d.orEmptyText.IsGiven := by
  by_cases h : d.isTruthy = true
  · have hd : d.orEmptyText = d := if_pos h
    rw [hd]
    exact hd
  · have hd : d.orEmptyText = .text [] := if_neg h
    rw [hd]
    rfl

namespace Inherited

variable {R : Datum → Prop} (hR : Inherited R)
include hR

theorem object {fields : List (Text × Datum)} :
    R (.object fields) ↔ ∀ f ∈ fields, R (.text f.1) ∧ R f.2 := by
  rw [Datum.object, hR.map]
  exact List.forall_mem_map

theorem get? {fields : Fields} (h : R (.map fields)) {key : Text} {d : Datum}
    (hd : fields.get? key = some d) : R d := by
  obtain ⟨before, after, rfl, _⟩ := List.lookup_eq_some_iff.mp hd
  exact ((hR.map _).mp h (.text key, d) (by simp)).2

theorem get {fields : Fields} (h : R (.map fields)) (key : Text) : R (fields.get key) := by
  rw [Fields.get]
  cases hd : fields.get? key with
  | none => exact hR.null
  | some d => exact hR.get? h hd

theorem orEmptyText {d : Datum} (h : R d) : R d.orEmptyText := by
  rw [Datum.orEmptyText]
  split
  · exact h
  · exact hR.string ""

theorem getD {o : Option Text} (h : R (.ofOption o)) : R (.text (o.getD [])) := by
  cases o with
  | none => exact hR.string ""
  | some t => exact h

/-- The items written one by one have the property when the list of them has it. -/
theorem list_map {α : Type} {write : α → Datum} {as : List α} :
    R (.list (as.map write)) ↔ ∀ a ∈ as, R (write a) := by
  rw [hR.list]
  exact List.forall_mem_map

/-- The values written under their keys have the property when the object of them has it. -/
theorem object_mapValues {α : Type} {write : α → Datum} {m : Assoc Text α} :
    R (.object (m.mapValues write)) ↔ ∀ e ∈ m, R (.text e.1) ∧ R (write e.2) := by
  rw [hR.object]
  exact List.forall_mem_map

theorem flagFields {flags : List (Text × Bool)} (h : ∀ f ∈ flags, R (.text f.1)) :
    ∀ f ∈ flagFields flags, R (.text f.1) ∧ R f.2 := by
  intro f hf
  obtain ⟨g, hg, rfl⟩ := List.mem_map.mp hf
  exact ⟨h g (List.mem_filter.mp hg).1, hR.bool true⟩

end Inherited

end Datum

/-! ## Errors -/

/-- A fault shows only data with a property. -/
def ShapeFault.Shows (R : Datum → Prop) : ShapeFault → Prop
  | .wrongDef _ found | .unknownSimpleType found | .unknownTypeDef found
  | .unknownPropertyDef found => R found
  | _ => True

/-- An error shows only data with a property. -/
def ShapeError.Shows (R : Datum → Prop) (e : ShapeError) : Prop := e.fault.Shows R

theorem Datum.expression?_outcome (d : Datum) :
    SucceedsIff (d.isWritable = true) .writing (fun _ ↦ True) d.expression? := by
  rw [Datum.expression?]
  split
  · next h => exact .ok ⟨h, trivial⟩
  · next h => exact .error ⟨h, rfl⟩

theorem Datum.display?_outcome (d : Datum) :
    SucceedsIff (d.isWritable = true) .writing (fun _ ↦ True) d.display? := by
  rw [Datum.display?]
  split
  · next h => exact .ok ⟨h, trivial⟩
  · next h => exact .error ⟨h, rfl⟩

/-- An error has a wording unless it shows an integer with too many digits. -/
theorem ShapeError.message_outcome (e : ShapeError) :
    SucceedsIff (e.Shows fun d ↦ d.isWritable = true) .writing (fun _ ↦ True) e.message := by
  obtain ⟨place, fault⟩ := e
  refine SucceedsIff.returns (Q := fun _ ↦ True) ?_ fun _ _ ↦ trivial
  cases fault with
  | wrongDef _ found | unknownSimpleType found | unknownTypeDef found | unknownPropertyDef found =>
    exact found.expression?_outcome.returns fun _ _ ↦ trivial
  | _ => exact .ok ⟨trivial, trivial⟩

/-! ## Readers of fields -/

section Readers

variable {R : Datum → Prop}

/-- What a reader ends with that looks for nothing but the shape. -/
abbrev ReadsAs {α : Type} (R : Datum → Prop) (Q : α → Prop) (x : Except ShapeError α) : Prop :=
  Outcome Q (ShapeError.Shows R) x

theorem Datum.requireMap_reads (place : Text) (d : Datum) :
    ReadsAs R (fun fields ↦ d = .map fields) (d.requireMap place) := by
  cases d with
  | map entries => exact .ok rfl
  | _ => exact .error trivial

theorem Datum.requireList_reads (place : Text) (d : Datum) :
    ReadsAs R (fun items ↦ d = .list items) (d.requireList place) := by
  cases d with
  | list items => exact .ok rfl
  | _ => exact .error trivial

namespace Fields

variable (fields : Fields) (place key : Text)

theorem require_reads :
    ReadsAs R (fun d ↦ fields.get? key = some d) (fields.require place key) := by
  rw [Fields.require]
  cases fields.get? key with
  | none => exact .error trivial
  | some d => exact .ok rfl

theorem flag_reads : ReadsAs R (fun _ ↦ True) (fields.flag place key) := by
  rw [Fields.flag]
  split
  · exact .ok trivial
  · exact .ok trivial
  · exact .error trivial

theorem optionalMap_reads (hR : Datum.Inherited R) (h : R (.map fields)) (fieldPlace : Text) :
    ReadsAs R (fun entries ↦ R (.map entries)) (fields.optionalMap key fieldPlace) := by
  rw [Fields.optionalMap]
  cases hd : fields.get? key with
  | none => exact .ok ((hR.map []).mpr (List.forall_mem_nil _))
  | some d =>
    refine (d.requireMap_reads fieldPlace).mono fun entries hentries ↦ ?_
    exact hentries ▸ hR.get? h hd

theorem optionalList_reads (hR : Datum.Inherited R) (h : R (.map fields)) (fieldPlace : Text) :
    ReadsAs R (fun items ↦ ∀ d ∈ items, R d) (fields.optionalList key fieldPlace) := by
  rw [Fields.optionalList]
  cases hd : fields.get? key with
  | none => exact .ok (List.forall_mem_nil _)
  | some d =>
    refine (d.requireList_reads fieldPlace).mono fun items hitems ↦ ?_
    exact (hR.list items).mp (hitems ▸ hR.get? h hd)

theorem requireText_reads :
    ReadsAs R (fun t ↦ fields.get key = .text t) (fields.requireText place key) := by
  rw [Fields.requireText]
  refine (require_reads fields place key).bind fun d hd ↦ ?_
  split
  · exact .ok (get_of_get? hd)
  · exact .error trivial

theorem optionalText_reads :
    ReadsAs R (fun t ↦ fields.get key = .ofOption t) (fields.optionalText place key) := by
  rw [Fields.optionalText]
  split
  · next h => exact .ok h
  · next h => exact .ok h
  · exact .error trivial

theorem expectDef_reads (h : R (fields.get "def")) (expected : Text) :
    ReadsAs R (fun _ ↦ fields.get "def" = .text expected) (fields.expectDef place expected) := by
  rw [Fields.expectDef]
  split
  · next t hget =>
    rw [hget] at h
    split
    · next heq => exact .ok (hget.trans (heq ▸ rfl))
    · exact .error h
  · exact .error h

theorem numberOrNull_reads :
    ReadsAs R (fun d ↦ d.IsCost ∧ fields.get key = d) (fields.numberOrNull place key) := by
  rw [Fields.numberOrNull]
  split
  · next h => exact .ok ⟨trivial, h⟩
  · next h => exact .ok ⟨trivial, h⟩
  · next h => exact .ok ⟨trivial, h⟩
  · exact .error trivial

theorem constantValue_reads :
    ReadsAs R (fun d ↦ d.IsConstantValue ∧ fields.get "value" = d)
      (fields.constantValue place) := by
  rw [Fields.constantValue]
  split
  · next h => exact .ok ⟨trivial, h⟩
  · next h => exact .ok ⟨trivial, h⟩
  · next h => exact .ok ⟨trivial, h⟩
  · next h => exact .ok ⟨trivial, h⟩
  · exact .error trivial

/-- A field that is read as a text or null holds a text or null. -/
theorem isNameOrNull_of_optionalText {d : Datum} {t : Option Text} (hget : fields.get? key = some d)
    (h : fields.optionalText place key = .ok t) : d.IsNameOrNull := by
  have hd := (optionalText_reads (R := fun _ ↦ True) fields place key).of_ok h
  rw [get_of_get? hget] at hd
  exact Datum.isNameOrNull_iff.mpr ⟨t, hd⟩

/-- A field that is read as a number or null holds a number or null. -/
theorem isCost_of_numberOrNull {d d' : Datum} (hget : fields.get? key = some d)
    (h : fields.numberOrNull place key = .ok d') : d.IsCost := by
  obtain ⟨hd', hd⟩ := (numberOrNull_reads (R := fun _ ↦ True) fields place key).of_ok h
  rw [get_of_get? hget] at hd
  exact hd ▸ hd'

/-- A field that is read as the value of a constant holds a number, a text or null. -/
theorem isConstantValue_of_constantValue {d d' : Datum} (hget : fields.get? "value" = some d)
    (h : fields.constantValue place = .ok d') : d.IsConstantValue := by
  obtain ⟨hd', hd⟩ := (constantValue_reads (R := fun _ ↦ True) fields place).of_ok h
  rw [get_of_get? hget] at hd
  exact hd ▸ hd'

end Fields

/-! ## Items and members -/

variable {α : Type} {Q : α → Prop} {read : Text → Datum → Except ShapeError α}

theorem readEach_reads {items : List Datum}
    (h : ∀ d ∈ items, ∀ place, ReadsAs R Q (read place d)) (place : Text) (index : Nat) :
    ReadsAs R (fun as ↦ as.length = items.length ∧ ∀ a ∈ as, Q a)
      (readEach read place index items) := by
  induction items generalizing index with
  | nil => exact .ok ⟨rfl, List.forall_mem_nil _⟩
  | cons d items ih =>
    rw [readEach]
    refine (h d List.mem_cons_self _).bind fun a ha ↦ ?_
    refine (ih (fun d hd ↦ h d (List.mem_cons_of_mem _ hd)) _).bind fun as has ↦ ?_
    exact .ok ⟨congrArg (· + 1) has.1, List.forall_mem_cons.mpr ⟨ha, has.2⟩⟩

theorem readMembers_reads {fields : Fields} (hR : Datum.Inherited R) (hfields : R (.map fields))
    (h : ∀ e ∈ fields, ∀ place, ReadsAs R Q (read place e.2)) (place : Text) :
    ReadsAs R (fun m ↦ ∀ e ∈ m, R (.text e.1) ∧ Q e.2) (readMembers read place fields) := by
  rw [hR.map] at hfields
  induction fields with
  | nil => exact .ok (List.forall_mem_nil _)
  | cons e fields ih =>
    obtain ⟨k, d⟩ := e
    obtain ⟨⟨hk, _⟩, hrest⟩ := List.forall_mem_cons.mp hfields
    obtain ⟨hd, hmembers⟩ := List.forall_mem_cons.mp h
    by_cases htext : ∃ t, k = .text t
    · obtain ⟨t, rfl⟩ := htext
      rw [readMembers_cons]
      refine (hd _).bind fun a ha ↦ ?_
      refine (ih hrest hmembers).bind fun m hm ↦ ?_
      exact .ok (List.forall_mem_cons.mpr ⟨⟨hk, ha⟩, hm⟩)
    · rw [readMembers_cons_of_ne _ _ (not_exists.mp htext)]
      exact ih hrest hmembers

end Readers

end ScriptDefs
