import ScriptDefs.Proofs.Data.Assoc
import ScriptDefs.Proofs.Data.Fields

/-!
# Changes under some keys

A map changed under some keys alone: all its keys keep their places, the values of the other keys
stay, and new keys come last. What is read from such a map is changed in the same way.
-/

namespace ScriptDefs

namespace Assoc

variable {κ β : Type}

/-- The second map is the first one with changes under named keys alone: it has the entries of the
first in their order, with other values under named keys at most, and after them new entries under
named keys. -/
inductive ChangedOnly (named : κ → Prop) : Assoc κ β → Assoc κ β → Prop where
  | new {n : Assoc κ β} (h : ∀ e ∈ n, named e.1) : ChangedOnly named [] n
  | cons {k : κ} {a b : β} {m n : Assoc κ β} (h : ¬ named k → b = a)
    (rest : ChangedOnly named m n) : ChangedOnly named ((k, a) :: m) ((k, b) :: n)

namespace ChangedOnly

variable {named : κ → Prop} {m n : Assoc κ β}

theorem refl (m : Assoc κ β) : ChangedOnly named m m := by
  induction m with
  | nil => exact .new (List.forall_mem_nil _)
  | cons e m ih => exact .cons (fun _ ↦ rfl) ih

/-- The keys stay in their order; all new ones are named. -/
theorem keys (h : ChangedOnly named m n) :
    ∃ new, n.keys = m.keys ++ new ∧ ∀ k ∈ new, named k := by
  induction h with
  | new h => exact ⟨_, rfl, List.forall_mem_map.mpr h⟩
  | cons h _ ih =>
    obtain ⟨new, hkeys, hnew⟩ := ih
    exact ⟨new, by rw [keys_cons, keys_cons, hkeys, List.cons_append], hnew⟩

/-- The entries under other keys are the same ones. -/
theorem mem_iff (h : ChangedOnly named m n) {key : κ} (hkey : ¬ named key) (value : β) :
    (key, value) ∈ n ↔ (key, value) ∈ m := by
  induction h with
  | new h => exact ⟨fun hmem ↦ absurd (h _ hmem) hkey, fun hmem ↦ absurd hmem List.not_mem_nil⟩
  | cons h _ ih =>
    rw [List.mem_cons, List.mem_cons, ih]
    refine or_congr_left ?_
    constructor
    · intro heq
      cases heq
      rw [h hkey]
    · intro heq
      cases heq
      rw [h hkey]

/-- A named key can be bound again. -/
theorem put [DecidableEq κ] (h : ChangedOnly named m n) {key : κ} (hkey : named key) (value : β) :
    ChangedOnly named m (put key value n) := by
  induction h with
  | new h =>
    refine .new fun e he ↦ ?_
    rcases mem_of_mem_put he with hmem | rfl
    · exact h e hmem
    · exact hkey
  | cons h rest ih =>
    rw [Assoc.put]
    split
    · next heq =>
      subst heq
      exact .cons (fun hno ↦ absurd hkey hno) rest
    · exact .cons h ih

end ChangedOnly

end Assoc

/-! ## Members -/

section Members

variable {α : Type} {read : Text → Datum → Except ShapeError α} {place : Text}

/-- Every member that was read stands under its key in the object. -/
theorem mem_of_readMembers {fields : Fields} {m : Assoc Text α}
    (h : readMembers read place fields = .ok m) {e : Text × α} (he : e ∈ m) :
    ∃ d, (.text e.1, d) ∈ fields := by
  induction fields generalizing m with
  | nil =>
    cases h
    cases he
  | cons f fields ih =>
    obtain ⟨k, d⟩ := f
    by_cases htext : ∃ t, k = .text t
    · obtain ⟨t, rfl⟩ := htext
      rw [readMembers_cons] at h
      obtain ⟨a, _, h⟩ := bind_eq_ok.mp h
      obtain ⟨rest, hrest, h⟩ := bind_eq_ok.mp h
      cases h
      rcases List.mem_cons.mp he with rfl | hmem
      · exact ⟨d, List.mem_cons_self⟩
      · exact (ih hrest hmem).imp fun _ ↦ List.mem_cons_of_mem _
    · rw [readMembers_cons_of_ne _ _ (not_exists.mp htext)] at h
      exact (ih h he).imp fun _ ↦ List.mem_cons_of_mem _

/-- Where the plain form of a map is changed under named keys, what is read from it is the map with
changes under the same keys. -/
theorem changedOnly_of_readMembers {write : α → Datum} {named : Text → Prop} {m n : Assoc Text α}
    {fields : Fields} (hread : ∀ e ∈ m, ∀ place, read place (write e.2) = .ok e.2)
    (hchanged : Assoc.ChangedOnly (fun k ↦ ∃ t, k = .text t ∧ named t)
      ((m.mapValues write).map fun f ↦ (.text f.1, f.2)) fields)
    (h : readMembers read place fields = .ok n) : Assoc.ChangedOnly named m n := by
  induction m generalizing fields n with
  | nil =>
    refine .new fun e he ↦ ?_
    obtain ⟨d, hd⟩ := mem_of_readMembers h he
    cases hchanged with
    | new hnew =>
      obtain ⟨t, heq, ht⟩ := hnew _ hd
      cases heq
      exact ht
  | cons e m ih =>
    obtain ⟨hself, hrest⟩ := List.forall_mem_cons.mp hread
    cases hchanged with
    | @cons _ _ b _ rest hb hchanged =>
      rw [readMembers_cons] at h
      obtain ⟨a, ha, h⟩ := bind_eq_ok.mp h
      obtain ⟨n, hn, h⟩ := bind_eq_ok.mp h
      cases h
      refine .cons (fun hno ↦ ?_) (ih hrest hchanged hn)
      have hsame : b = write e.2 := by
        refine hb ?_
        rintro ⟨t, heq, ht⟩
        cases heq
        exact hno ht
      rw [hsame, hself] at ha
      exact (Except.ok.inj ha).symm

end Members

end ScriptDefs
