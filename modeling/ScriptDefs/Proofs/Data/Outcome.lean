import Mathlib.Data.List.Forall2
import ScriptDefs.Proofs.Data.Fields

/-!
# Outcomes

What is known of how a computation ends: a property of its result and a property of its error. The
outcome of a computation in steps follows from those of its steps.
-/

namespace ScriptDefs

/-- A computation has a result with one property, or an error with another. -/
inductive Outcome {ε α : Type} (Q : α → Prop) (E : ε → Prop) : Except ε α → Prop where
  | ok {a : α} (h : Q a) : Outcome Q E (.ok a)
  | error {e : ε} (h : E e) : Outcome Q E (.error e)

/-- A computation has a result, with a property. -/
abbrev Succeeds {ε α : Type} (Q : α → Prop) (x : Except ε α) : Prop := Outcome Q (fun _ ↦ False) x

/-- A computation has a result. -/
abbrev HasResult {ε α : Type} (x : Except ε α) : Prop := Succeeds (fun _ ↦ True) x

namespace Outcome

variable {ε φ α β γ : Type} {Q : α → Prop} {Q' : β → Prop} {E : ε → Prop} {x : Except ε α}

/-- A computation ends. -/
theorem any (x : Except ε α) : Outcome (fun _ ↦ True) (fun _ ↦ True) x := by
  cases x with
  | ok a => exact .ok trivial
  | error e => exact .error trivial

/-- The second step may rely on the result of the first. -/
theorem bind (hx : Outcome Q E x) {f : α → Except ε β} (hf : ∀ a, Q a → Outcome Q' E (f a)) :
    Outcome Q' E (x >>= f) := by
  cases hx with
  | ok h => exact hf _ h
  | error h => exact .error h

theorem mono {Q₁ : α → Prop} (hx : Outcome Q E x) (h : ∀ a, Q a → Q₁ a) : Outcome Q₁ E x := by
  cases hx with
  | ok ha => exact .ok (h _ ha)
  | error he => exact .error he

theorem mono_error {E₁ : ε → Prop} (hx : Outcome Q E x) (h : ∀ e, E e → E₁ e) :
    Outcome Q E₁ x := by
  cases hx with
  | ok ha => exact .ok ha
  | error he => exact .error (h _ he)

/-- Nothing else fails when something is made of a result. -/
theorem returns (hx : Outcome Q E x) (f : α → β) :
    Outcome (fun _ ↦ True) E (do return f (← x)) :=
  hx.bind fun _ _ ↦ .ok trivial

/-- The end of a computation, together with what is known of it. -/
theorem self (hx : Outcome Q E x) :
    Outcome (fun a ↦ Q a ∧ x = .ok a) (fun e ↦ E e ∧ x = .error e) x := by
  cases hx with
  | ok ha => exact .ok ⟨ha, rfl⟩
  | error he => exact .error ⟨he, rfl⟩

theorem of_ok (hx : Outcome Q E x) {a : α} (h : x = .ok a) : Q a := by
  cases hx with
  | ok ha =>
    cases h
    exact ha
  | error he => cases h

theorem of_error (hx : Outcome Q E x) {e : ε} (h : x = .error e) : E e := by
  cases hx with
  | ok ha => cases h
  | error he =>
    cases h
    exact he

/-- Errors of another kind. -/
theorem mapError {F : φ → Prop} (hx : Outcome Q E x) {f : ε → φ} (h : ∀ e, E e → F (f e)) :
    Outcome Q F (x.mapError f) := by
  cases hx with
  | ok ha => exact .ok ha
  | error he => exact .error (h _ he)

/-- The results for the items of a list have the property that the result for each item has. -/
theorem mapM {as : List α} {f : α → Except ε β} (h : ∀ a ∈ as, Outcome Q' E (f a)) :
    Outcome (fun bs ↦ ∀ b ∈ bs, Q' b) E (as.mapM f) := by
  induction as with
  | nil => exact .ok (List.forall_mem_nil _)
  | cons a as ih =>
    rw [List.mapM_cons]
    refine (h a List.mem_cons_self).bind fun b hb ↦ ?_
    refine (ih fun a ha ↦ h a (List.mem_cons_of_mem _ ha)).bind fun bs hbs ↦ ?_
    exact .ok (List.forall_mem_cons.mpr ⟨hb, hbs⟩)

/-- Nothing else fails for the items of a list together than for one of them. -/
theorem mapM_ends {as : List α} {f : α → Except ε β}
    (h : ∀ a ∈ as, Outcome (fun _ ↦ True) E (f a)) : Outcome (fun _ ↦ True) E (as.mapM f) :=
  (mapM h).mono fun _ _ ↦ trivial

end Outcome

namespace HasResult

variable {ε φ α β : Type}

theorem exists_ok {x : Except ε α} (h : HasResult x) : ∃ a, x = .ok a := by
  cases h with
  | ok _ => exact ⟨_, rfl⟩
  | error he => exact he.elim

theorem of_ok {x : Except ε α} {a : α} (h : x = .ok a) : HasResult x := h ▸ .ok trivial

theorem mapM {as : List α} {f : α → Except ε β} (h : ∀ a ∈ as, HasResult (f a)) :
    HasResult (as.mapM f) := Outcome.mapM_ends h

/-- A computation in two steps has a result when both steps have one. -/
theorem bind_iff {x : Except ε α} {f : α → Except ε β} {P : Prop}
    (h : ∀ a, x = .ok a → (HasResult (f a) ↔ P)) : HasResult (x >>= f) ↔ HasResult x ∧ P := by
  cases x with
  | ok a => exact (h a rfl).trans (iff_and_self.mpr fun _ ↦ of_ok rfl)
  | error e => exact ⟨fun h ↦ (nomatch h.exists_ok), fun h ↦ (nomatch h.1.exists_ok)⟩

/-- Making something of a result does not fail. -/
theorem returns_iff {x : Except ε α} (f : α → β) : HasResult (do return f (← x)) ↔ HasResult x :=
  (bind_iff fun _ _ ↦ iff_true_intro (of_ok rfl)).trans (and_iff_left trivial)

theorem mapError_iff {x : Except ε α} (f : ε → φ) : HasResult (x.mapError f) ↔ HasResult x := by
  cases x with
  | ok a => exact iff_of_true (of_ok rfl) (of_ok rfl)
  | error e => exact ⟨fun h ↦ (nomatch h.exists_ok), fun h ↦ (nomatch h.exists_ok)⟩

/-- The items of a list have a result together when each has one. -/
theorem mapM_iff {as : List α} {f : α → Except ε β} :
    HasResult (as.mapM f) ↔ ∀ a ∈ as, HasResult (f a) := by
  induction as with
  | nil => exact iff_of_true (of_ok rfl) (List.forall_mem_nil _)
  | cons a as ih =>
    rw [List.mapM_cons, List.forall_mem_cons]
    exact bind_iff fun _ _ ↦ (returns_iff _).trans ih

end HasResult

/-- A computation has a result, with a property, exactly under a condition, and otherwise a certain
error. -/
abbrev SucceedsIff {ε α : Type} (p : Prop) (e : ε) (Q : α → Prop) (x : Except ε α) : Prop :=
  Outcome (fun a ↦ p ∧ Q a) (fun e' ↦ ¬p ∧ e' = e) x

namespace SucceedsIff

variable {ε φ α β : Type} {p q : Prop} {e : ε} {Q : α → Prop} {Q' : β → Prop} {x : Except ε α}

theorem of_succeeds (hp : p) (h : Succeeds Q x) : SucceedsIff p e Q x :=
  (h.mono fun _ ha ↦ ⟨hp, ha⟩).mono_error fun _ he ↦ he.elim

theorem congr (h : SucceedsIff p e Q x) (hpq : p ↔ q) : SucceedsIff q e Q x := by rwa [← hpq]

theorem imp (h : SucceedsIff p e Q x) {Q₁ : α → Prop} (hQ : ∀ a, Q a → Q₁ a) :
    SucceedsIff p e Q₁ x :=
  h.mono fun _ ha ↦ ⟨ha.1, hQ _ ha.2⟩

/-- Two steps have a result under both their conditions. -/
theorem bind (hx : SucceedsIff p e Q x) {f : α → Except ε β}
    (hf : ∀ a, Q a → SucceedsIff q e Q' (f a)) : SucceedsIff (p ∧ q) e Q' (x >>= f) := by
  cases hx with
  | ok h =>
    exact ((hf _ h.2).mono fun b hb ↦ ⟨⟨h.1, hb.1⟩, hb.2⟩).mono_error
      fun _ he ↦ ⟨fun hpq ↦ he.1 hpq.2, he.2⟩
  | error h => exact .error ⟨fun hpq ↦ h.1 hpq.1, h.2⟩

/-- A second step that does not fail. -/
theorem bind_succeeds (hx : SucceedsIff p e Q x) {f : α → Except ε β}
    (hf : ∀ a, Q a → Succeeds Q' (f a)) : SucceedsIff p e Q' (x >>= f) :=
  (hx.bind fun a ha ↦ of_succeeds trivial (hf a ha)).congr (and_iff_left trivial)

/-- A first step that does not fail. -/
theorem after_succeeds (hx : Succeeds Q x) {f : α → Except ε β}
    (hf : ∀ a, Q a → SucceedsIff q e Q' (f a)) : SucceedsIff q e Q' (x >>= f) :=
  ((of_succeeds trivial hx).bind hf).congr (and_iff_right trivial)

/-- Making something of a result does not fail. -/
theorem returns (hx : SucceedsIff p e Q x) {f : α → β} (hf : ∀ a, Q a → Q' (f a)) :
    SucceedsIff p e Q' (do return f (← x)) :=
  Outcome.bind hx fun _ ha ↦ .ok ⟨ha.1, hf _ ha.2⟩

theorem mapError (hx : SucceedsIff p e Q x) (f : ε → φ) :
    SucceedsIff p (f e) Q (x.mapError f) :=
  Outcome.mapError hx fun _ he ↦ ⟨he.1, congrArg f he.2⟩

/-- The items of a list have results together when the condition of each is met. -/
theorem mapM {P : α → Prop} {as : List α} {f : α → Except ε β}
    (h : ∀ a ∈ as, SucceedsIff (P a) e Q' (f a)) :
    SucceedsIff (∀ a ∈ as, P a) e (fun bs ↦ ∀ b ∈ bs, Q' b) (as.mapM f) := by
  induction as with
  | nil => exact .ok ⟨List.forall_mem_nil _, List.forall_mem_nil _⟩
  | cons a as ih =>
    obtain ⟨ha, has⟩ := List.forall_mem_cons.mp h
    rw [List.mapM_cons]
    refine (ha.bind fun b hb ↦ (ih has).returns fun bs hbs ↦ ?_).congr List.forall_mem_cons.symm
    exact List.forall_mem_cons.mpr ⟨hb, hbs⟩

theorem hasResult_iff (h : SucceedsIff p e Q x) : HasResult x ↔ p := by
  cases h with
  | ok ha => exact iff_of_true (.ok trivial) ha.1
  | error he => exact iff_of_false (fun h ↦ nomatch h) he.1

theorem succeeds (h : SucceedsIff p e Q x) (hp : p) : Succeeds Q x :=
  (h.mono fun _ ha ↦ ha.2).mono_error fun _ he ↦ he.1 hp

theorem eq_error (h : SucceedsIff p e Q x) (hp : ¬p) : x = .error e := by
  cases h with
  | ok ha => exact absurd ha.1 hp
  | error he => rw [he.2]

end SucceedsIff

/-- The results for the items of a list come one by one. -/
theorem forall₂_of_mapM {ε α β : Type} {as : List α} {bs : List β} {f : α → Except ε β}
    (h : as.mapM f = .ok bs) : List.Forall₂ (fun a b ↦ f a = .ok b) as bs := by
  induction as generalizing bs with
  | nil =>
    cases h
    exact .nil
  | cons a as ih =>
    rw [List.mapM_cons] at h
    obtain ⟨b, hb, h⟩ := bind_eq_ok.mp h
    obtain ⟨rest, hrest, h⟩ := bind_eq_ok.mp h
    cases h
    exact .cons hb (ih hrest)

theorem exists_of_mem_mapM {ε α β : Type} {as : List α} {bs : List β} {f : α → Except ε β}
    (h : as.mapM f = .ok bs) {a : α} (ha : a ∈ as) : ∃ b ∈ bs, f a = .ok b := by
  have hall := forall₂_of_mapM h
  clear h
  induction hall with
  | nil => cases ha
  | @cons a' b as bs hb has ih =>
    rcases List.mem_cons.mp ha with rfl | hmem
    · exact ⟨b, List.mem_cons_self, hb⟩
    · obtain ⟨b', hb', hfa⟩ := ih hmem
      exact ⟨b', List.mem_cons_of_mem _ hb', hfa⟩

/-- The items of a list fail together with the error of the first one that fails. -/
theorem exists_of_mapM_error {ε α β : Type} {as : List α} {f : α → Except ε β} {e : ε}
    (h : as.mapM f = .error e) :
    ∃ before a after, as = before ++ a :: after ∧ f a = .error e ∧
      ∀ b ∈ before, HasResult (f b) := by
  induction as with
  | nil => cases h
  | cons a as ih =>
    rw [List.mapM_cons] at h
    cases ha : f a with
    | error e' =>
      rw [ha] at h
      cases h
      exact ⟨[], a, as, rfl, ha, List.forall_mem_nil _⟩
    | ok b =>
      rw [ha, ok_bind] at h
      cases has : as.mapM f with
      | ok bs =>
        rw [has] at h
        cases h
      | error e' =>
        rw [has] at h
        cases h
        obtain ⟨before, a', after, rfl, ha', hbefore⟩ := ih has
        exact ⟨a :: before, a', after, rfl, ha',
          List.forall_mem_cons.mpr ⟨HasResult.of_ok ha, hbefore⟩⟩

end ScriptDefs
