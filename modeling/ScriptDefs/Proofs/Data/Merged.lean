import Mathlib.Data.List.Lex
import ScriptDefs.Proofs.Data.Assoc

/-!
# Merged and sorted maps

What a map looks like that is made from entries with repeated keys, from two maps put one over the
other, or from the entries of a map in the order of their keys: its keys in their order, and the value
under each of them.
-/

namespace ScriptDefs

/-! ## Order of texts -/

namespace Text

/-- Texts are ordered as the numbers of their code points are. -/
theorem le_iff (s t : Text) :
    s.le t = true ↔ s.map CodePoint.toNat ≤ t.map CodePoint.toNat := by
  rw [← not_lt]
  induction s generalizing t with
  | nil => simp [le]
  | cons a s ih =>
    cases t with
    | nil => simp [le]
    | cons b t =>
      rw [le, Bool.or_eq_true, Bool.and_eq_true, ih]
      have hcons : (b :: t).map CodePoint.toNat < (a :: s).map CodePoint.toNat ↔
          b.toNat < a.toNat ∨ b.toNat = a.toNat ∧ t.map CodePoint.toNat < s.map CodePoint.toNat :=
        List.cons_lex_cons_iff
      rw [hcons, decide_eq_true_iff, beq_iff_eq]
      rcases Nat.lt_trichotomy a.toNat b.toNat with h | h | h
      · simp [h, h.not_gt, h.ne']
      · simp [h]
      · simp [h, h.not_gt, h.ne']

theorem le_trans (s t u : Text) (hst : s.le t = true) (htu : t.le u = true) : s.le u = true := by
  rw [le_iff] at *
  exact hst.trans htu

theorem le_total (s t : Text) : (s.le t || t.le s) = true := by
  rw [Bool.or_eq_true, le_iff, le_iff]
  exact LinearOrder.le_total _ _

end Text

namespace Assoc

variable {α β : Type}

/-! ## Sorted maps -/

theorem mem_sorted {m : Assoc Text β} {e : Text × β} : e ∈ sorted m ↔ e ∈ m :=
  (List.mergeSort_perm m _).mem_iff

theorem keys_sorted_perm (m : Assoc Text β) : (keys (sorted m)).Perm (keys m) :=
  (List.mergeSort_perm m _).map _

/-- The keys of a sorted map ascend by code point. -/
theorem pairwise_keys_sorted (m : Assoc Text β) :
    (keys (sorted m)).Pairwise fun s t ↦ s.map CodePoint.toNat ≤ t.map CodePoint.toNat := by
  have hsorted : (sorted m).Pairwise fun a b ↦ Text.le a.1 b.1 = true :=
    List.pairwise_mergeSort (fun a b c ↦ Text.le_trans a.1 b.1 c.1)
      (fun a b ↦ Text.le_total a.1 b.1) m
  rw [keys, List.pairwise_map]
  exact hsorted.imp fun h ↦ (Text.le_iff _ _).mp h

/-- What is made of the entries under their keys can be made before or after they are sorted. -/
theorem sorted_map {γ : Type} (f : Text × β → γ) (m : Assoc Text β) :
    sorted (m.map fun e ↦ (e.1, f e)) = (sorted m).map fun e ↦ (e.1, f e) := by
  rw [sorted, sorted, List.map_mergeSort]
  intro a _ b _
  rfl

theorem keys_filter (kept : Text → Bool) (m : Assoc Text β) :
    keys (m.filter fun e ↦ kept e.1) = (keys m).filter kept := by
  rw [keys, keys, List.filter_map]
  rfl

/-! ## Look-up -/

section Lookup

variable [DecidableEq α] [BEq α] [LawfulBEq α]

/-- Where keys differ, what is found under a key is what is stored with it. -/
theorem lookup_eq_some_iff_mem {m : Assoc α β} (h : (keys m).Nodup) {key : α} {value : β} :
    m.lookup key = some value ↔ (key, value) ∈ m := by
  induction m with
  | nil => simp
  | cons e m ih =>
    obtain ⟨k, v⟩ := e
    rw [keys_cons, List.nodup_cons] at h
    rw [lookup_cons_eq, List.mem_cons, Prod.mk.injEq]
    by_cases hk : k = key
    · subst hk
      have hnew : (k, value) ∉ m := fun hmem ↦ h.1 (List.mem_map_of_mem hmem)
      simp [hnew, eq_comm]
    · simp [hk, Ne.symm hk, ih h.2]

/-! ## Repeated keys -/

/-- Where a key is bound several times, the last value stays. -/
theorem lookup_update_reverse (m : Assoc α β) (key : α) (entries : List (α × β)) :
    (update m entries).lookup key = (List.lookup key entries.reverse).or (m.lookup key) := by
  induction entries using List.reverseRecOn with
  | nil => rfl
  | append_singleton entries e ih =>
    obtain ⟨k, v⟩ := e
    rw [update_append, update_cons, List.reverse_concat, lookup_cons_eq]
    by_cases hk : k = key
    · subst hk
      exact (lookup_put_self _ _ _).trans (by rw [if_pos rfl, Option.some_or])
    · exact (lookup_put_of_ne hk _ _).trans (by rw [ih, if_neg hk])

theorem lookup_ofList (key : α) (entries : List (α × β)) :
    (ofList entries).lookup key = List.lookup key entries.reverse :=
  (lookup_update_reverse [] key entries).trans (Option.or_none)

/-- Keys stand where they were bound first. -/
theorem keys_ofList (entries : List (α × β)) :
    keys (ofList entries) = (keys entries).eraseDups := by
  induction entries using List.reverseRecOn with
  | nil => rfl
  | append_singleton entries e ih =>
    have hkeys : keys (entries ++ [e]) = keys entries ++ [e.1] := List.map_append
    rw [ofList_concat, keys_put, ih, hkeys, List.eraseDups_append]
    by_cases he : e.1 ∈ keys entries
    · simp [he, List.removeAll, List.eraseDups_nil]
    · simp [he, List.removeAll, List.eraseDups_cons]

/-! ## One map over another -/

variable {m n : Assoc α β}

/-- The second map wins. -/
theorem lookup_update (hn : (keys n).Nodup) (key : α) :
    (update m n).lookup key = (n.lookup key).or (m.lookup key) := by
  induction n generalizing m with
  | nil => rfl
  | cons e n ih =>
    obtain ⟨k, v⟩ := e
    rw [keys_cons, List.nodup_cons] at hn
    rw [update_cons, ih hn.2, lookup_cons_eq]
    by_cases hk : k = key
    · subst hk
      rw [if_pos rfl, lookup_put_self, lookup_eq_none_iff.mpr hn.1]
      rfl
    · rw [if_neg hk, lookup_put_of_ne hk]

/-- The keys of the first map keep their places; new ones follow in the order of the second map. -/
theorem keys_update (hn : (keys n).Nodup) :
    keys (update m n) = keys m ++ (keys n).filter (· ∉ keys m) := by
  induction n generalizing m with
  | nil => simp [update]
  | cons e n ih =>
    obtain ⟨k, v⟩ := e
    rw [keys_cons, List.nodup_cons] at hn
    rw [update_cons, ih hn.2, keys_put, keys_cons, List.filter_cons]
    by_cases hk : k ∈ keys m
    · simp [hk]
    · have hothers : (keys n).filter (· ∉ keys m ++ [k]) = (keys n).filter (· ∉ keys m) := by
        apply List.filter_congr
        intro key hkey
        have hne : key ≠ k := fun heq ↦ hn.1 (heq ▸ hkey)
        simp [hne]
      rw [if_neg hk, hothers]
      simp [hk]

end Lookup

end Assoc

end ScriptDefs
