import Mathlib.Data.List.Induction
import ScriptDefs.Data.Assoc

/-!
# Laws of association lists

What binding a key does to every look-up and to the order of the keys.
-/

namespace ScriptDefs.Assoc

variable {α β γ : Type} [DecidableEq α]

/-- Look-up in a list that begins with an entry. -/
theorem lookup_cons_eq [BEq α] [LawfulBEq α] (k key : α) (v : β) (m : Assoc α β) :
    List.lookup key ((k, v) :: m) = if k = key then some v else List.lookup key m := by
  rw [List.lookup_cons]
  by_cases h : k = key
  · simp [h]
  · have hne : (key == k) = false := by simpa using Ne.symm h
    simp [h, hne]

/-- A key is found under the value that was bound last. -/
theorem lookup_put_self [BEq α] [LawfulBEq α] (key : α) (value : β) (m : Assoc α β) :
    List.lookup key (put key value m) = some value := by
  induction m with
  | nil => simp [put]
  | cons e m ih =>
    obtain ⟨k, v⟩ := e
    rw [put]
    split
    · next h => rw [lookup_cons_eq, if_pos h]
    · next h => rw [lookup_cons_eq, if_neg h, ih]

/-- Binding a key leaves all other keys alone. -/
theorem lookup_put_of_ne [BEq α] [LawfulBEq α] {key other : α} (h : key ≠ other) (value : β)
    (m : Assoc α β) : List.lookup other (put key value m) = List.lookup other m := by
  induction m with
  | nil => rw [put, lookup_cons_eq, if_neg h]
  | cons e m ih =>
    obtain ⟨k, v⟩ := e
    rw [put]
    split
    · next hk =>
      subst hk
      rw [lookup_cons_eq, lookup_cons_eq, if_neg h, if_neg h]
    · rw [lookup_cons_eq, lookup_cons_eq, ih]

/-- The keys that are there keep their order; a new one comes last. -/
theorem keys_put (key : α) (value : β) (m : Assoc α β) :
    keys (put key value m) = if key ∈ keys m then keys m else keys m ++ [key] := by
  induction m with
  | nil => simp [put, keys]
  | cons e m ih =>
    obtain ⟨k, v⟩ := e
    simp only [keys] at ih
    simp only [put, keys, List.map_cons, List.mem_cons]
    by_cases hk : k = key
    · simp [hk]
    · by_cases hm : key ∈ m.map (·.1)
      · simp [hk, hm, ih]
      · simp [hk, Ne.symm hk, hm, ih]

/-- Binding a key adds no other entry. -/
theorem mem_of_mem_put {key : α} {value : β} {m : Assoc α β} {e : α × β}
    (h : e ∈ put key value m) : e ∈ m ∨ e = (key, value) := by
  induction m with
  | nil => exact .inr (List.mem_singleton.mp h)
  | cons f m ih =>
    obtain ⟨k, v⟩ := f
    rw [put] at h
    split at h
    · next hk =>
      rcases List.mem_cons.mp h with rfl | hmem
      · exact .inr (hk ▸ rfl)
      · exact .inl (List.mem_cons_of_mem _ hmem)
    · rcases List.mem_cons.mp h with rfl | hmem
      · exact .inl List.mem_cons_self
      · exact (ih hmem).imp_left (List.mem_cons_of_mem _)

/-! ## Maps from lists -/

/-- The last entry of a list is bound last. -/
@[simp] theorem ofList_concat (entries : List (α × β)) (e : α × β) :
    ofList (entries ++ [e]) = put e.1 e.2 (ofList entries) := by
  rw [ofList, ofList, List.foldl_append]
  rfl

theorem mapValues_put (f : β → γ) (key : α) (value : β) (m : Assoc α β) :
    mapValues f (put key value m) = put key (f value) (mapValues f m) := by
  induction m with
  | nil => rfl
  | cons e m ih =>
    obtain ⟨k, v⟩ := e
    rw [put]
    by_cases h : k = key
    · simp [mapValues, put, h]
    · simp only [mapValues] at ih
      simp [mapValues, put, h, ih]

theorem mem_of_mem_ofList {entries : List (α × β)} {e : α × β} (h : e ∈ ofList entries) :
    e ∈ entries := by
  induction entries using List.reverseRecOn with
  | nil => cases h
  | append_singleton entries e' ih =>
    rw [ofList_concat] at h
    rcases mem_of_mem_put h with hmem | rfl
    · exact List.mem_append_left _ (ih hmem)
    · exact List.mem_append_right _ List.mem_cons_self

/-- A function can be applied to the values before or after they are bound. -/
theorem mapValues_ofList (f : β → γ) (entries : List (α × β)) :
    mapValues f (ofList entries) = ofList (mapValues f entries) := by
  induction entries using List.reverseRecOn with
  | nil => rfl
  | append_singleton entries e ih =>
    have hconcat : mapValues f (entries ++ [e]) = mapValues f entries ++ [(e.1, f e.2)] :=
      List.map_append
    rw [ofList_concat, mapValues_put, ih, hconcat, ofList_concat]

/-- A new key comes last. -/
theorem put_of_notMem {key : α} (value : β) {m : Assoc α β} (h : key ∉ keys m) :
    put key value m = m ++ [(key, value)] := by
  induction m with
  | nil => rfl
  | cons e m ih =>
    obtain ⟨k, v⟩ := e
    obtain ⟨hk, hm⟩ := not_or.mp fun hor ↦ h (List.mem_cons.mpr hor)
    rw [put, if_neg (Ne.symm hk), ih hm, List.cons_append]

/-- A list that binds every key once is the map that is made from it. -/
theorem ofList_of_nodup {m : Assoc α β} (h : (keys m).Nodup) : ofList m = m := by
  induction m using List.reverseRecOn with
  | nil => rfl
  | append_singleton m e ih =>
    rw [keys, List.map_append, List.nodup_append] at h
    obtain ⟨hm, -, hne⟩ := h
    rw [ofList_concat, ih hm, put_of_notMem]
    exact fun hmem ↦ hne e.1 hmem e.1 List.mem_cons_self rfl

/-! ## Keys and values -/

@[simp] theorem keys_nil {κ : Type} : keys ([] : Assoc κ β) = [] := rfl

@[simp] theorem keys_cons {κ : Type} (k : κ) (v : β) (m : Assoc κ β) :
    keys ((k, v) :: m) = k :: keys m := rfl

@[simp] theorem keys_mapValues {κ : Type} (f : β → γ) (m : Assoc κ β) :
    keys (mapValues f m) = keys m := by
  rw [keys, mapValues, List.map_map]
  rfl

theorem values_mapValues {κ : Type} (f : β → γ) (m : Assoc κ β) :
    values (mapValues f m) = (values m).map f := by
  rw [values, mapValues, values, List.map_map, List.map_map]
  rfl

/-- A function that is applied to every value is applied to what is found. -/
theorem lookup_mapValues {κ : Type} [BEq κ] (f : β → γ) (key : κ) (m : Assoc κ β) :
    (mapValues f m).lookup key = (m.lookup key).map f := by
  induction m with
  | nil => rfl
  | cons e m ih =>
    obtain ⟨k, v⟩ := e
    rw [mapValues, List.map_cons, List.lookup_cons, List.lookup_cons]
    cases key == k with
    | true => rfl
    | false => exact ih

/-- Nothing is found under the keys that are not there, and only under them. -/
theorem lookup_eq_none_iff {κ : Type} [BEq κ] [LawfulBEq κ] {key : κ} {m : Assoc κ β} :
    m.lookup key = none ↔ key ∉ keys m := by
  rw [List.lookup_eq_none_iff, keys, List.mem_map]
  constructor
  · rintro h ⟨e, he, rfl⟩
    simpa using h e he
  · intro h e he
    simpa using fun heq ↦ h ⟨e, he, Eq.symm heq⟩

theorem mem_keys_put {key k : α} {value : β} {m : Assoc α β} :
    k ∈ keys (put key value m) ↔ k ∈ keys m ∨ k = key := by
  rw [keys_put]
  split
  · next h => exact ⟨.inl, fun hk ↦ hk.elim id fun heq ↦ heq ▸ h⟩
  · simp

/-- A map made from a list binds every key once. -/
theorem nodup_keys_ofList (entries : List (α × β)) : (keys (ofList entries)).Nodup := by
  induction entries using List.reverseRecOn with
  | nil => exact List.nodup_nil
  | append_singleton entries e ih =>
    rw [ofList_concat, keys_put]
    split
    · exact ih
    · next h => exact List.nodup_append.mpr ⟨ih, by simp, fun a ha b hb ↦ by grind⟩

/-! ## Updates -/

theorem update_cons (k : α) (v : β) (m n : Assoc α β) :
    update m ((k, v) :: n) = update (put k v m) n := rfl

theorem update_append {m n n' : Assoc α β} : update m (n ++ n') = update (update m n) n' :=
  List.foldl_append

theorem mem_of_mem_update {m n : Assoc α β} {e : α × β} (h : e ∈ update m n) : e ∈ m ∨ e ∈ n := by
  induction n generalizing m with
  | nil => exact .inl h
  | cons f n ih =>
    obtain ⟨k, v⟩ := f
    rw [update_cons] at h
    rcases ih h with hmem | hmem
    · rcases mem_of_mem_put hmem with hmem | rfl
      · exact .inl hmem
      · exact .inr List.mem_cons_self
    · exact .inr (List.mem_cons_of_mem _ hmem)

theorem mem_keys_update {k : α} {m m' : Assoc α β} :
    k ∈ keys (update m m') ↔ k ∈ keys m ∨ k ∈ keys m' := by
  induction m' generalizing m with
  | nil => simp [update]
  | cons e m' ih =>
    obtain ⟨key, value⟩ := e
    rw [update_cons, ih, mem_keys_put, keys_cons, List.mem_cons, or_assoc]

theorem mem_keys_ofList {k : α} {entries : List (α × β)} :
    k ∈ keys (ofList entries) ↔ k ∈ keys entries :=
  mem_keys_update.trans (or_iff_right List.not_mem_nil)

/-- The first entry stays first if its key is not bound again. -/
theorem update_cons_of_notMem {key : α} (value : β) (m : Assoc α β) {n : Assoc α β}
    (h : key ∉ keys n) : update ((key, value) :: m) n = (key, value) :: update m n := by
  induction n generalizing m with
  | nil => rfl
  | cons e n ih =>
    obtain ⟨k, v⟩ := e
    rw [keys_cons, List.mem_cons, not_or] at h
    rw [update_cons, update_cons, put, if_neg h.1]
    exact ih _ h.2

/-- The value of the first entry does not matter if its key is bound again. -/
theorem update_cons_of_mem {key : α} (value value' : β) (m : Assoc α β) {n : Assoc α β}
    (h : key ∈ keys n) : update ((key, value) :: m) n = update ((key, value') :: m) n := by
  induction n generalizing m with
  | nil => cases h
  | cons e n ih =>
    obtain ⟨k, v⟩ := e
    rw [keys_cons, List.mem_cons] at h
    rw [update_cons, update_cons, put, put]
    by_cases hk : key = k
    · rw [if_pos hk, if_pos hk]
    · rw [if_neg hk, if_neg hk]
      exact ih _ (h.resolve_left hk)

end ScriptDefs.Assoc
