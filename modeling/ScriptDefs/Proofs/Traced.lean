import ScriptDefs.Proofs.Data.Outcome
import ScriptDefs.Traced

/-!
# Steps with remarks

The result of a computation with remarks is that of its steps without them. What is remarked on the way to
a result are the remarks of the steps one after the other.
-/

namespace ScriptDefs

namespace Traced

variable {ι ε α β : Type}

/-! ## Results -/

/-- The result of two steps is that of the second one on the result of the first. -/
theorem result_bind (x : Traced ι ε α) (f : α → Traced ι ε β) :
    (x >>= f).result = x.result >>= fun a ↦ (f a).result := by
  obtain ⟨notes, result⟩ := x
  cases result with
  | error e => rfl
  | ok a => rfl

theorem result_note (notes : List ι) : (note notes : Traced ι ε Unit).result = .ok () := rfl

@[simp] theorem ofExcept_ok_bind (a : α) (f : α → Traced ι ε β) : (ofExcept (.ok a) >>= f) = f a := rfl

@[simp] theorem note_nil_bind (f : Unit → Traced ι ε β) : (note [] >>= f) = f () := rfl

/-! ## Remarks on the way to a result -/

/-- A computation in two steps has a result when both steps have one, after the remarks of both. -/
theorem bind_eq_ok {x : Traced ι ε α} {f : α → Traced ι ε β} {notes : List ι} {b : β} :
    (x >>= f) = ⟨notes, .ok b⟩ ↔
      ∃ n a m, x = ⟨n, .ok a⟩ ∧ f a = ⟨m, .ok b⟩ ∧ notes = n ++ m := by
  obtain ⟨n, result⟩ := x
  cases result with
  | error e =>
    have hbind : ((⟨n, .error e⟩ : Traced ι ε α) >>= f) = ⟨n, .error e⟩ := rfl
    simp [hbind]
  | ok a =>
    have hbind : ((⟨n, .ok a⟩ : Traced ι ε α) >>= f) = ⟨n ++ (f a).notes, (f a).result⟩ := rfl
    rw [hbind]
    constructor
    · intro h
      obtain ⟨rfl, hresult⟩ := Traced.mk.inj h
      exact ⟨n, a, (f a).notes, rfl, by rw [← hresult], rfl⟩
    · rintro ⟨_, _, m, heq, hf, rfl⟩
      cases heq
      rw [hf]

theorem pure_eq_ok {a b : α} {notes : List ι} :
    (pure a : Traced ι ε α) = ⟨notes, .ok b⟩ ↔ notes = [] ∧ a = b := by
  constructor
  · intro h
    cases h
    exact ⟨rfl, rfl⟩
  · rintro ⟨rfl, rfl⟩
    rfl

theorem ofExcept_eq_ok {x : Except ε α} {a : α} {notes : List ι} :
    (ofExcept x : Traced ι ε α) = ⟨notes, .ok a⟩ ↔ notes = [] ∧ x = .ok a := by
  constructor
  · intro h
    cases h
    exact ⟨rfl, rfl⟩
  · rintro ⟨rfl, rfl⟩
    rfl

theorem note_eq_ok {notes notes' : List ι} {u : Unit} :
    (note notes : Traced ι ε Unit) = ⟨notes', .ok u⟩ ↔ notes' = notes := by
  constructor
  · intro h
    cases h
    rfl
  · rintro rfl
    rfl

/-- A step without remarks. -/
theorem ofExcept_bind_eq_ok {x : Except ε α} {f : α → Traced ι ε β} {notes : List ι} {b : β} :
    (ofExcept x >>= f) = ⟨notes, .ok b⟩ ↔ ∃ a, x = .ok a ∧ f a = ⟨notes, .ok b⟩ := by
  rw [bind_eq_ok]
  constructor
  · rintro ⟨_, a, m, hstep, hf, rfl⟩
    obtain ⟨rfl, hx⟩ := ofExcept_eq_ok.mp hstep
    exact ⟨a, hx, hf⟩
  · rintro ⟨a, hx, hf⟩
    exact ⟨[], a, notes, ofExcept_eq_ok.mpr ⟨rfl, hx⟩, hf, rfl⟩

/-- Remarks before a step. -/
theorem note_bind_eq_ok {first : List ι} {f : Unit → Traced ι ε β} {notes : List ι} {b : β} :
    (note first >>= f) = ⟨notes, .ok b⟩ ↔ ∃ m, f () = ⟨m, .ok b⟩ ∧ notes = first ++ m := by
  rw [bind_eq_ok]
  constructor
  · rintro ⟨_, _, m, hx, hf, rfl⟩
    obtain rfl := note_eq_ok.mp hx
    exact ⟨m, hf, rfl⟩
  · rintro ⟨m, hf, rfl⟩
    exact ⟨first, (), m, rfl, hf, rfl⟩

theorem mapNotes_eq_ok {κ : Type} {f : ι → κ} {x : Traced ι ε α} {notes : List κ} {a : α} :
    x.mapNotes f = ⟨notes, .ok a⟩ ↔ ∃ n, x = ⟨n, .ok a⟩ ∧ notes = n.map f := by
  obtain ⟨n, result⟩ := x
  simp [mapNotes, and_comm, eq_comm]

/-- Two computations do not have different results or different remarks on the way to them. -/
def Agree {φ : Type} (x : Traced ι ε α) (y : Traced ι φ α) : Prop :=
  ∀ notes a notes' a', x = ⟨notes, .ok a⟩ → y = ⟨notes', .ok a'⟩ → notes = notes' ∧ a = a'

end Traced

end ScriptDefs
