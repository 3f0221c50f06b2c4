import ScriptDefs.Proofs.Data.Assoc
import ScriptDefs.Proofs.Data.Fields

/-!
# Related results and collections

Two computations side by side: they fail with the same error, or their results are related. Two
lists are related item by item, where the index counts, and two maps entry by entry, where the key
counts.
-/

namespace ScriptDefs

/-! ## Results -/

/-- Two computations fail with the same error, or have related results. -/
inductive SameOutcome {ε α β : Type} (R : α → β → Prop) : Except ε α → Except ε β → Prop where
  | error (e : ε) : SameOutcome R (.error e) (.error e)
  | ok {a : α} {b : β} (h : R a b) : SameOutcome R (.ok a) (.ok b)

namespace SameOutcome

variable {ε φ α β γ δ : Type} {R : α → β → Prop} {Q : γ → δ → Prop}

theorem refl {R : α → α → Prop} (h : ∀ a, R a a) (x : Except ε α) : SameOutcome R x x := by
  cases x with
  | error e => exact .error e
  | ok a => exact .ok (h a)

/-- The same first step, and second steps with the same outcome. -/
theorem bind_same (x : Except ε α) {f : α → Except ε γ} {g : α → Except ε δ}
    (h : ∀ a, x = .ok a → SameOutcome Q (f a) (g a)) : SameOutcome Q (x >>= f) (x >>= g) := by
  cases x with
  | error e => exact .error e
  | ok a => exact h a rfl

/-- Two steps have the same outcome if both have. -/
theorem bind {x : Except ε α} {y : Except ε β} (h : SameOutcome R x y) {f : α → Except ε γ}
    {g : β → Except ε δ} (hfg : ∀ a b, R a b → SameOutcome Q (f a) (g b)) :
    SameOutcome Q (x >>= f) (y >>= g) := by
  cases h with
  | error e => exact .error e
  | ok h => exact hfg _ _ h

/-- Two steps have the same outcome if both have, where the second ones may rely on the first
results. -/
theorem bind_ok {x : Except ε α} {y : Except ε β} (h : SameOutcome R x y) {f : α → Except ε γ}
    {g : β → Except ε δ}
    (hfg : ∀ a b, x = .ok a → y = .ok b → R a b → SameOutcome Q (f a) (g b)) :
    SameOutcome Q (x >>= f) (y >>= g) := by
  cases h with
  | error e => exact .error e
  | ok h => exact hfg _ _ rfl rfl h

theorem mapError (f : ε → φ) {x : Except ε α} {y : Except ε β} (h : SameOutcome R x y) :
    SameOutcome R (x.mapError f) (y.mapError f) := by
  cases h with
  | error e => exact .error _
  | ok h => exact .ok h

theorem mono {x : Except ε α} {y : Except ε β} {R' : α → β → Prop} (h : SameOutcome R x y)
    (hR : ∀ a b, R a b → R' a b) : SameOutcome R' x y := by
  cases h with
  | error e => exact .error e
  | ok h => exact .ok (hR _ _ h)

theorem error_iff {x : Except ε α} {y : Except ε β} (h : SameOutcome R x y) (e : ε) :
    x = .error e ↔ y = .error e := by
  cases h with
  | error e' => simp
  | ok h => simp

theorem of_ok {x : Except ε α} {y : Except ε β} (h : SameOutcome R x y) {a : α} {b : β}
    (hx : x = .ok a) (hy : y = .ok b) : R a b := by
  cases h with
  | error e => cases hx
  | ok h =>
    cases hx
    cases hy
    exact h

/-- Computations with the same outcome, in turn on the items of a list. -/
theorem mapM {as : List γ} {f : γ → Except ε α} {g : γ → Except ε β}
    (h : ∀ c ∈ as, SameOutcome R (f c) (g c)) :
    SameOutcome (List.Forall₂ R) (as.mapM f) (as.mapM g) := by
  induction as with
  | nil => exact .ok .nil
  | cons c as ih =>
    obtain ⟨hc, has⟩ := List.forall_mem_cons.mp h
    rw [List.mapM_cons, List.mapM_cons]
    refine hc.bind fun a b hab ↦ ?_
    exact (ih has).bind fun _ _ hs ↦ .ok (.cons hab hs)

end SameOutcome

/-! ## Lists -/

section Items

variable {α β γ δ : Type} {R : Nat → α → β → Prop}

/-- Two lists are related item by item, from an index on. -/
inductive ItemsRelated (R : Nat → α → β → Prop) : Nat → List α → List β → Prop where
  | nil (i : Nat) : ItemsRelated R i [] []
  | cons {i : Nat} {a : α} {b : β} {as : List α} {bs : List β} (h : R i a b)
    (hs : ItemsRelated R (i + 1) as bs) : ItemsRelated R i (a :: as) (b :: bs)

theorem itemsRelated_iff {i : Nat} {as : List α} {bs : List β} :
    ItemsRelated R i as bs ↔
      as.length = bs.length ∧ ∀ j a b, as[j]? = some a → bs[j]? = some b → R (i + j) a b := by
  induction as generalizing i bs with
  | nil =>
    constructor
    · intro h
      cases h
      simp
    · rintro ⟨hlength, _⟩
      obtain rfl := List.eq_nil_of_length_eq_zero hlength.symm
      exact .nil i
  | cons a as ih =>
    constructor
    · intro h
      cases h with
      | cons h hs =>
        obtain ⟨hlength, hitems⟩ := ih.mp hs
        refine ⟨congrArg (· + 1) hlength, ?_⟩
        intro j a' b' ha hb
        cases j with
        | zero =>
          cases ha
          cases hb
          exact h
        | succ j =>
          have := hitems j a' b' ha hb
          rwa [Nat.add_assoc, Nat.add_comm 1 j] at this
    · rintro ⟨hlength, hitems⟩
      cases bs with
      | nil => cases hlength
      | cons b bs =>
        refine .cons (hitems 0 a b rfl rfl) (ih.mpr ⟨Nat.succ.inj hlength, ?_⟩)
        intro j a' b' ha hb
        have := hitems (j + 1) a' b' ha hb
        rwa [Nat.add_comm j 1, ← Nat.add_assoc] at this

namespace ItemsRelated

theorem length_eq {i : Nat} {as : List α} {bs : List β} (h : ItemsRelated R i as bs) :
    as.length = bs.length := (itemsRelated_iff.mp h).1

theorem refl {R : Nat → α → α → Prop} (h : ∀ i a, R i a a) (i : Nat) (as : List α) :
    ItemsRelated R i as as := by
  induction as generalizing i with
  | nil => exact .nil i
  | cons a as ih => exact .cons (h i a) (ih (i + 1))

/-- The index does not count. -/
theorem of_forall₂ {R : α → β → Prop} {as : List α} {bs : List β} (h : List.Forall₂ R as bs)
    (i : Nat) : ItemsRelated (fun _ ↦ R) i as bs := by
  induction h generalizing i with
  | nil => exact .nil i
  | cons hab _ ih => exact .cons hab (ih (i + 1))

/-- Lists of images are related when the images of related items are. -/
theorem map {Q : Nat → γ → δ → Prop} {f : α → γ} {g : β → δ} {i : Nat} {as : List α} {bs : List β}
    (h : ItemsRelated R i as bs) (hfg : ∀ i a b, R i a b → Q i (f a) (g b)) :
    ItemsRelated Q i (as.map f) (bs.map g) := by
  induction h with
  | nil i => exact .nil i
  | cons h _ ih => exact .cons (hfg _ _ _ h) ih

/-- What is related may depend on where the items are found. -/
theorem mono_getElem? {Q : Nat → α → β → Prop} {as : List α} {bs : List β}
    (h : ItemsRelated R 0 as bs)
    (hR : ∀ (i : Nat) a b, as[i]? = some a → bs[i]? = some b → R i a b → Q i a b) :
    ItemsRelated Q 0 as bs := by
  obtain ⟨hlength, hitems⟩ := itemsRelated_iff.mp h
  refine itemsRelated_iff.mpr ⟨hlength, fun i a b ha hb ↦ ?_⟩
  have := hitems i a b ha hb
  rw [Nat.zero_add] at this ⊢
  exact hR i a b ha hb this

/-- The same index leads to related items, or is out of range in both lists. -/
theorem getElem? {as : List α} {bs : List β} (h : ItemsRelated R 0 as bs) (n : Nat) :
    (as[n]? = none ∧ bs[n]? = none) ∨
      ∃ a b, as[n]? = some a ∧ bs[n]? = some b ∧ R n a b := by
  obtain ⟨hlength, hitems⟩ := itemsRelated_iff.mp h
  by_cases hn : n < as.length
  · have ha := List.getElem?_eq_getElem hn
    have hb := List.getElem?_eq_getElem (hlength ▸ hn)
    refine .inr ⟨_, _, ha, hb, ?_⟩
    simpa using hitems n _ _ ha hb
  · rw [List.getElem?_eq_none (Nat.le_of_not_lt hn),
      List.getElem?_eq_none (hlength ▸ Nat.le_of_not_lt hn)]
    exact .inl ⟨rfl, rfl⟩

/-- For an item of the first list there is a related one at the same index of the second. -/
theorem exists_of_getElem? {as : List α} {bs : List β} (h : ItemsRelated R 0 as bs) {n : Nat}
    {a : α} (ha : as[n]? = some a) : ∃ b, bs[n]? = some b ∧ R n a b := by
  rcases h.getElem? n with ⟨hnone, _⟩ | ⟨a', b, ha', hb, hab⟩
  · rw [ha] at hnone
    cases hnone
  · rw [ha] at ha'
    cases ha'
    exact ⟨b, hb, hab⟩

/-- Related items can be put at the same index. -/
theorem set {as : List α} {bs : List β} (h : ItemsRelated R 0 as bs) {n : Nat} {a : α} {b : β}
    (hab : R n a b) : ItemsRelated R 0 (as.set n a) (bs.set n b) := by
  obtain ⟨hlength, hitems⟩ := itemsRelated_iff.mp h
  rw [itemsRelated_iff, List.length_set, List.length_set]
  refine ⟨hlength, ?_⟩
  intro j a' b' ha hb
  rw [List.getElem?_set] at ha hb
  by_cases hj : n = j
  · subst hj
    rw [if_pos rfl] at ha hb
    split at ha
    · split at hb
      · cases ha
        cases hb
        simpa using hab
      · cases hb
    · cases ha
  · rw [if_neg hj] at ha hb
    exact hitems j a' b' ha hb

end ItemsRelated

end Items

/-! ## Maps -/

section Entries

variable {κ α β γ δ : Type} {R : κ → α → β → Prop}

/-- Two maps have the same keys in the same order, and related values. -/
inductive EntriesRelated (R : κ → α → β → Prop) : List (κ × α) → List (κ × β) → Prop where
  | nil : EntriesRelated R [] []
  | cons {k : κ} {a : α} {b : β} {m : List (κ × α)} {n : List (κ × β)} (h : R k a b)
    (hs : EntriesRelated R m n) : EntriesRelated R ((k, a) :: m) ((k, b) :: n)

theorem entriesRelated_iff {m : List (κ × α)} {n : List (κ × β)} :
    EntriesRelated R m n ↔
      m.map (·.1) = n.map (·.1) ∧
        ∀ (j : Nat) k a b, m[j]? = some (k, a) → n[j]? = some (k, b) → R k a b := by
  induction m generalizing n with
  | nil =>
    constructor
    · intro h
      cases h
      simp
    · rintro ⟨hkeys, _⟩
      obtain rfl := List.map_eq_nil_iff.mp hkeys.symm
      exact .nil
  | cons e m ih =>
    obtain ⟨k, a⟩ := e
    constructor
    · intro h
      cases h with
      | cons h hs =>
        obtain ⟨hkeys, hentries⟩ := ih.mp hs
        refine ⟨congrArg (k :: ·) hkeys, ?_⟩
        intro j k' a' b' ha hb
        cases j with
        | zero =>
          cases ha
          cases hb
          exact h
        | succ j => exact hentries j k' a' b' ha hb
    · rintro ⟨hkeys, hentries⟩
      cases n with
      | nil => cases hkeys
      | cons e' n =>
        obtain ⟨k', b⟩ := e'
        obtain ⟨rfl, htail⟩ := List.cons.inj hkeys
        refine .cons (hentries 0 k a b rfl rfl) (ih.mpr ⟨htail, ?_⟩)
        intro j k' a' b' ha hb
        exact hentries (j + 1) k' a' b' ha hb

namespace EntriesRelated

/-- Lists of pairs with the same keys and related values are related maps. -/
theorem of_items {i : Nat} {m : List (κ × α)} {n : List (κ × β)}
    (h : ItemsRelated (fun _ e e' ↦ e.1 = e'.1 ∧ R e.1 e.2 e'.2) i m n) : EntriesRelated R m n := by
  induction h with
  | nil i => exact .nil
  | @cons i e e' m n h _ ih =>
    obtain ⟨k, a⟩ := e
    obtain ⟨k', b⟩ := e'
    obtain ⟨rfl, hab⟩ := h
    exact .cons hab ih

theorem refl {R : κ → α → α → Prop} (h : ∀ k a, R k a a) (m : List (κ × α)) :
    EntriesRelated R m m := by
  induction m with
  | nil => exact .nil
  | cons e m ih => exact .cons (h e.1 e.2) ih

theorem mono {Q : κ → α → β → Prop} {m : List (κ × α)} {n : List (κ × β)}
    (h : EntriesRelated R m n) (hR : ∀ k a b, R k a b → Q k a b) : EntriesRelated Q m n := by
  induction h with
  | nil => exact .nil
  | cons h _ ih => exact .cons (hR _ _ _ h) ih

/-- What is related may depend on what is in the first map. -/
theorem mono_mem {Q : κ → α → β → Prop} {m : List (κ × α)} {n : List (κ × β)}
    (h : EntriesRelated R m n) (hR : ∀ k a b, (k, a) ∈ m → R k a b → Q k a b) :
    EntriesRelated Q m n := by
  induction h with
  | nil => exact .nil
  | cons h _ ih =>
    refine .cons (hR _ _ _ List.mem_cons_self h) (ih fun k a b hmem ↦ ?_)
    exact hR k a b (List.mem_cons_of_mem _ hmem)

theorem mapValues {Q : κ → γ → δ → Prop} {f : α → γ} {g : β → δ} {m : Assoc κ α} {n : Assoc κ β}
    (h : EntriesRelated R m n) (hfg : ∀ k a b, R k a b → Q k (f a) (g b)) :
    EntriesRelated Q (m.mapValues f) (n.mapValues g) := by
  induction h with
  | nil => exact .nil
  | cons h _ ih => exact .cons (hfg _ _ _ h) ih

theorem keys_eq {m : Assoc κ α} {n : Assoc κ β} (h : EntriesRelated R m n) : m.keys = n.keys :=
  (entriesRelated_iff.mp h).1

/-- For what is in the first map there is something related in the second one. -/
theorem exists_of_mem {m : List (κ × α)} {n : List (κ × β)} (h : EntriesRelated R m n) {key : κ}
    {a : α} (ha : (key, a) ∈ m) : ∃ b, (key, b) ∈ n ∧ R key a b := by
  induction h with
  | nil => cases ha
  | cons h _ ih =>
    rcases List.mem_cons.mp ha with heq | ha
    · cases heq
      exact ⟨_, List.mem_cons_self, h⟩
    · obtain ⟨b, hb, hab⟩ := ih ha
      exact ⟨b, List.mem_cons_of_mem _ hb, hab⟩

theorem eq {m n : List (κ × α)} (h : EntriesRelated (fun _ ↦ Eq) m n) : m = n := by
  induction h with
  | nil => rfl
  | cons h _ ih => rw [h, ih]

variable [DecidableEq κ]

/-- The same key leads to related values, or is missing in both maps. -/
theorem lookup {m : List (κ × α)} {n : List (κ × β)} (h : EntriesRelated R m n) (key : κ) :
    (m.lookup key = none ∧ n.lookup key = none) ∨
      ∃ a b, m.lookup key = some a ∧ n.lookup key = some b ∧ R key a b := by
  induction h with
  | nil => exact .inl ⟨rfl, rfl⟩
  | @cons k a b m n h _ ih =>
    rw [Assoc.lookup_cons_eq, Assoc.lookup_cons_eq]
    by_cases hk : k = key
    · subst hk
      rw [if_pos rfl, if_pos rfl]
      exact .inr ⟨a, b, rfl, rfl, h⟩
    · rw [if_neg hk, if_neg hk]
      exact ih

/-- Related values can be bound to the same key. -/
theorem put {m : Assoc κ α} {n : Assoc κ β} (h : EntriesRelated R m n) {key : κ} {a : α} {b : β}
    (hab : R key a b) : EntriesRelated R (m.put key a) (n.put key b) := by
  induction h with
  | nil => exact .cons hab .nil
  | @cons k a' b' m n h hs ih =>
    rw [Assoc.put, Assoc.put]
    by_cases hk : k = key
    · subst hk
      rw [if_pos rfl, if_pos rfl]
      exact .cons hab hs
    · rw [if_neg hk, if_neg hk]
      exact .cons h ih

/-- Lists of related entries are bound to related maps. -/
theorem ofList {m : List (κ × α)} {n : List (κ × β)} (h : EntriesRelated R m n) :
    EntriesRelated R (Assoc.ofList m) (Assoc.ofList n) := by
  have hfold : ∀ m' n', EntriesRelated R m' n' → EntriesRelated R
      (m.foldl (fun m e ↦ Assoc.put e.1 e.2 m) m')
      (n.foldl (fun m e ↦ Assoc.put e.1 e.2 m) n') := by
    induction h with
    | nil => exact fun _ _ h ↦ h
    | cons h _ ih => exact fun _ _ h' ↦ ih _ _ (h'.put h)
  exact hfold [] [] .nil

end EntriesRelated

end Entries

/-! ## Reading -/

section Reading

variable {α β γ δ : Type}

/-- Related items are read with the same outcome if each of them is. -/
theorem sameOutcome_readEach {P : Nat → Datum → Datum → Prop} {R : Nat → α → β → Prop}
    {read : Text → Datum → Except ShapeError α} {read' : Text → Datum → Except ShapeError β}
    {i : Nat} {xs ys : List Datum} (h : ItemsRelated P i xs ys)
    (hread : ∀ i x y, P i x y → ∀ place, SameOutcome (R i) (read place x) (read' place y))
    (place : Text) :
    SameOutcome (fun as bs ↦ as.length = xs.length ∧ ItemsRelated R i as bs)
      (readEach read place i xs) (readEach read' place i ys) := by
  induction h with
  | nil i => exact .ok ⟨rfl, .nil i⟩
  | cons h _ ih =>
    refine (hread _ _ _ h _).bind fun a b hab ↦ ?_
    exact ih.bind fun as bs hs ↦ .ok ⟨congrArg (· + 1) hs.1, .cons hab hs.2⟩

/-- Related members are read with the same outcome if each of them is. -/
theorem sameOutcome_readMembers {P : Scalar → Datum → Datum → Prop} {R : Text → α → β → Prop}
    {read : Text → Datum → Except ShapeError α} {read' : Text → Datum → Except ShapeError β}
    {f g : Fields} (h : EntriesRelated P f g)
    (hread : ∀ k x y, P (.text k) x y →
      ∀ place, SameOutcome (R k) (read place x) (read' place y))
    (place : Text) :
    SameOutcome (EntriesRelated R) (readMembers read place f) (readMembers read' place g) := by
  induction h with
  | nil => exact .ok .nil
  | @cons k x y f g h _ ih =>
    -- entries whose keys are no texts are no members
    by_cases hk : ∃ t, k = .text t
    · obtain ⟨t, rfl⟩ := hk
      rw [readMembers_cons, readMembers_cons]
      refine (hread t x y h _).bind fun a b hab ↦ ?_
      exact ih.bind fun as bs hs ↦ .ok (.cons hab hs)
    · have hk : ∀ t, k ≠ .text t := fun t ht ↦ hk ⟨t, ht⟩
      rw [readMembers_cons_of_ne _ _ hk, readMembers_cons_of_ne _ _ hk]
      exact ih

theorem sameOutcome_mapM {ε : Type} {R : β → γ → Prop} {f : α → Except ε β} {g : α → Except ε γ}
    (h : ∀ a, SameOutcome R (f a) (g a)) (as : List α) (i : Nat) :
    SameOutcome (ItemsRelated (fun _ ↦ R) i) (as.mapM f) (as.mapM g) :=
  (SameOutcome.mapM fun a _ ↦ h a).mono fun _ _ hs ↦ .of_forall₂ hs i

end Reading

end ScriptDefs
