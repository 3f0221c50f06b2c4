import ScriptDefs.Proofs.Patch.Edit

/-!
# The order of patches

Two patches whose paths part can be applied in either order. Together they apply exactly when each
of them applies alone, and both orders give the same value; only when both of them make a new key of
the same object does the order of these keys tell which patch came first. A patch that goes where
another one went before, or to a value around that place, leaves nothing of what the other one did.
-/

namespace ScriptDefs

namespace Assoc

variable {α β : Type} [DecidableEq α]

/-- A key has the value that was bound last. -/
theorem put_put_self (key : α) (value value' : β) (m : Assoc α β) :
    put key value' (put key value m) = put key value' m := by
  induction m with
  | nil => simp [put]
  | cons e m ih =>
    obtain ⟨k, v⟩ := e
    by_cases h : k = key
    · simp [put, h]
    · simp [put, h, ih]

/-- Two keys can be bound in either order if one of them is there before. -/
theorem put_comm {key other : α} (h : key ≠ other) (value value' : β) {m : Assoc α β}
    (hm : key ∈ keys m ∨ other ∈ keys m) :
    put other value' (put key value m) = put key value (put other value' m) := by
  induction m with
  | nil => simp at hm
  | cons e m ih =>
    obtain ⟨k, v⟩ := e
    by_cases hk : k = key
    · subst hk
      simp [put, h]
    · by_cases hk' : k = other
      · subst hk'
        simp [put, hk]
      · simp only [keys_cons, List.mem_cons, Ne.symm hk, Ne.symm hk', false_or] at hm
        simp [put, hk, hk', ih hm]

/-- What is found does not depend on the order in which two keys were bound. -/
theorem lookup_put_comm {key other : α} (h : key ≠ other) (value value' : β) (m : Assoc α β)
    (k : α) :
    List.lookup k (put other value' (put key value m)) =
      List.lookup k (put key value (put other value' m)) := by
  by_cases hk : key = k
  · subst hk
    rw [lookup_put_of_ne (Ne.symm h), lookup_put_self, lookup_put_self]
  · by_cases hk' : other = k
    · subst hk'
      rw [lookup_put_self, lookup_put_of_ne h, lookup_put_self]
    · rw [lookup_put_of_ne hk', lookup_put_of_ne hk, lookup_put_of_ne hk, lookup_put_of_ne hk']

end Assoc

/-- The paths part at some place: neither begins with the other. -/
inductive Apart : List Segment → List Segment → Prop where
  | here {s t : Segment} (h : s ≠ t) (path other : List Segment) : Apart (s :: path) (t :: other)
  | after (s : Segment) {path other : List Segment} (h : Apart path other) :
    Apart (s :: path) (s :: other)

theorem apart_iff {path other : List Segment} :
    Apart path other ↔ ¬ path <+: other ∧ ¬ other <+: path := by
  constructor
  · intro h
    induction h with
    | here h path other => simp [List.cons_prefix_cons, h, Ne.symm h]
    | after s h ih => simpa [List.cons_prefix_cons] using ih
  · rintro ⟨hl, hr⟩
    induction path generalizing other with
    | nil => exact absurd List.nil_prefix hl
    | cons s path ih =>
      cases other with
      | nil => exact absurd List.nil_prefix hr
      | cons t other =>
        by_cases h : s = t
        · subst h
          simp only [List.cons_prefix_cons, true_and] at hl hr
          exact .after s (ih hl hr)
        · exact .here h path other

theorem Apart.ne_nil {path other : List Segment} (h : Apart path other) :
    path ≠ [] ∧ other ≠ [] := by
  cases h <;> simp

theorem Apart.symm {path other : List Segment} (h : Apart path other) : Apart other path := by
  induction h with
  | here h path other => exact .here (Ne.symm h) other path
  | after s h ih => exact .after s ih

namespace Datum

/-- The same value, whatever the order of keys: arrays of the same length with the same values in
the same places, and objects that have the same keys with the same values. -/
inductive EqualUpToOrder : Datum → Datum → Prop where
  | refl (d : Datum) : EqualUpToOrder d d
  | list {items items' : List Datum} (hlength : items.length = items'.length)
    (h : ∀ (n : Nat) (d d' : Datum), items[n]? = some d → items'[n]? = some d' →
      EqualUpToOrder d d') :
    EqualUpToOrder (.list items) (.list items')
  | map {entries entries' : Fields} (hkeys : (Assoc.keys entries).Perm (Assoc.keys entries'))
    (h : ∀ k d d', entries.lookup k = some d → entries'.lookup k = some d' →
      EqualUpToOrder d d') :
    EqualUpToOrder (.map entries) (.map entries')

/-- Paths lead to two new keys of the same object. -/
def BothNew (path other : List Segment) (d : Datum) : Prop :=
  ∃ init k j entries, path = init ++ [.key k] ∧ other = init ++ [.key j] ∧
    d.at? init = some (.map entries) ∧
    .text k ∉ Assoc.keys entries ∧ .text j ∉ Assoc.keys entries

theorem bothNew_singleton {s t : Segment} {d : Datum} :
    BothNew [s] [t] d ↔ ∃ k j entries, s = .key k ∧ t = .key j ∧ d = .map entries ∧
      .text k ∉ Assoc.keys entries ∧ .text j ∉ Assoc.keys entries := by
  constructor
  · rintro ⟨init, k, j, entries, hs, ht, hd, hk, hj⟩
    cases init with
    | nil =>
      cases hs
      cases ht
      cases hd
      exact ⟨k, j, entries, rfl, rfl, rfl, hk, hj⟩
    | cons u init => simp at hs
  · rintro ⟨k, j, entries, rfl, rfl, rfl, hk, hj⟩
    exact ⟨[], k, j, entries, rfl, rfl, rfl, hk, hj⟩

/-! ## One container -/

/-- Of two parts put in the same place the last one stays. -/
theorem withPart_withPart_self (s : Segment) (d part part' : Datum) :
    (d.withPart s part).withPart s part' = d.withPart s part' := by
  cases s with
  | key k =>
    cases d with
    | map entries => simp [withPart, Assoc.put_put_self]
    | _ => rfl
  | index n =>
    cases d with
    | list items => simp [withPart]
    | _ => rfl

/-- Putting a part does not change which segments a container accepts. -/
theorem accepts_withPart {s t : Segment} {d : Datum} (part : Datum) :
    (d.withPart s part).Accepts t ↔ d.Accepts t := by
  cases s with
  | key k => cases d <;> cases t <;> simp [withPart, Accepts]
  | index n => cases d <;> cases t <;> simp [withPart, Accepts]

theorem withPart_inj {s : Segment} {d : Datum} (h : d.Accepts s) {part part' : Datum} :
    d.withPart s part = d.withPart s part' ↔ part = part' := by
  constructor
  · intro heq
    have hread := congrArg (·.part? s) heq
    simpa [part?_withPart_self h] using hread
  · intro heq
    rw [heq]

/-- The order of keys in a part does not matter for the container. -/
theorem EqualUpToOrder.withPart {part part' : Datum} (h : EqualUpToOrder part part') (s : Segment)
    (d : Datum) : EqualUpToOrder (d.withPart s part) (d.withPart s part') := by
  cases s with
  | key k =>
    cases d with
    | map entries =>
      refine .map (by simp [Assoc.keys_put]) fun j x y hx hy ↦ ?_
      by_cases hj : Scalar.text k = j
      · subst hj
        rw [Assoc.lookup_put_self] at hx hy
        cases hx
        cases hy
        exact h
      · rw [Assoc.lookup_put_of_ne hj] at hx hy
        rw [hx] at hy
        cases hy
        exact .refl x
    | _ => exact .refl _
  | index n =>
    cases d with
    | list items =>
      refine .list (by simp) fun m x y hx hy ↦ ?_
      by_cases hm : n = m
      · subst hm
        rw [List.getElem?_set_self' ] at hx hy
        cases hitem : items[n]? with
        | none => simp [hitem] at hx
        | some item =>
          rw [hitem] at hx hy
          cases hx
          cases hy
          exact h
      · rw [List.getElem?_set_ne hm] at hx hy
        rw [hx] at hy
        cases hy
        exact .refl x
    | _ => exact .refl _

/-- Parts at two segments can be put in either order, unless both are new keys. -/
theorem withPart_comm {s t : Segment} (h : s ≠ t) {d : Datum} (hnew : ¬ BothNew [s] [t] d)
    (part part' : Datum) :
    (d.withPart s part).withPart t part' = (d.withPart t part').withPart s part := by
  cases d with
  | map entries =>
    cases s with
    | key k =>
      cases t with
      | key j =>
        have hne : Scalar.text k ≠ .text j := by simpa using h
        have hthere : Scalar.text k ∈ Assoc.keys entries ∨ .text j ∈ Assoc.keys entries := by
          by_contra hno
          obtain ⟨hk, hj⟩ := not_or.mp hno
          exact hnew (bothNew_singleton.mpr ⟨k, j, entries, rfl, rfl, rfl, hk, hj⟩)
        simp [withPart, Assoc.put_comm hne part part' hthere]
      | index m => rfl
    | index n => cases t <;> rfl
  | list items =>
    cases s with
    | key k => cases t <;> rfl
    | index n =>
      cases t with
      | key j => rfl
      | index m =>
        have hne : n ≠ m := by simpa using h
        simp [withPart, List.set_comm _ _ hne]
  | _ => cases s <;> cases t <;> rfl

/-- Both orders of putting parts at two segments give the same value. -/
theorem withPart_equal {s t : Segment} (h : s ≠ t) (d part part' : Datum) :
    EqualUpToOrder ((d.withPart s part).withPart t part')
      ((d.withPart t part').withPart s part) := by
  by_cases hnew : BothNew [s] [t] d
  · obtain ⟨k, j, entries, rfl, rfl, rfl, hk, hj⟩ := bothNew_singleton.mp hnew
    have hne : Scalar.text k ≠ .text j := by simpa using h
    refine .map ?_ fun i x y hx hy ↦ ?_
    · rw [Assoc.keys_put, Assoc.keys_put, Assoc.keys_put, Assoc.keys_put]
      simpa [hk, hj, hne, Ne.symm hne] using (List.Perm.swap _ _ _).append_left _
    · rw [Assoc.lookup_put_comm hne, hy] at hx
      cases hx
      exact .refl x
  · rw [withPart_comm h hnew]
    exact .refl _

/-- Two new keys come in the order in which they were put. -/
theorem withPart_ne {s t : Segment} (h : s ≠ t) {d : Datum} (hnew : BothNew [s] [t] d)
    (part part' : Datum) :
    (d.withPart s part).withPart t part' ≠ (d.withPart t part').withPart s part := by
  obtain ⟨k, j, entries, rfl, rfl, rfl, hk, hj⟩ := bothNew_singleton.mp hnew
  have hne : Scalar.text k ≠ .text j := by simpa using h
  intro heq
  simp only [withPart, Datum.map.injEq] at heq
  have hkeys := congrArg Assoc.keys heq
  simp [Assoc.keys_put, hk, hj, hne, Ne.symm hne] at hkeys

/-! ## Paths -/

section Paths

variable {s t : Segment} {path other : List Segment} {d inner : Datum}

theorem fits_cons (h : path ≠ []) :
    d.Fits (s :: path) ↔ ∃ inner, d.part? s = some inner ∧ inner.Fits path := by
  cases path with
  | nil => exact absurd rfl h
  | cons next path => rfl

/-- A path does not go on where nothing is. -/
theorem Fits.eq_nil (h : d.Fits (s :: path)) (hs : d.part? s = none) : path = [] := by
  by_contra hpath
  obtain ⟨inner, hinner, _⟩ := (fits_cons hpath).mp h
  rw [hs] at hinner
  cases hinner

theorem fits_withPart (h : s ≠ t) (part : Datum) :
    (d.withPart s part).Fits (t :: path) ↔ d.Fits (t :: path) := by
  cases path with
  | nil => exact accepts_withPart part
  | cons next path => simp [Fits, part?_withPart_of_ne h]

/-- Of two parts put on paths with the same first segment, both go into the part at that segment. -/
theorem putAt_putAt_cons (hinner : d.part? s = some inner) (part part' : Datum) :
    (d.putAt (s :: path) part).putAt (s :: other) part' =
      d.withPart s ((inner.putAt path part).putAt other part') := by
  have hpart := part?_withPart_self (accepts_of_part? hinner) (inner.putAt path part)
  rw [putAt_cons_of_part? hinner, putAt_cons_of_part? hpart, withPart_withPart_self]

/-- Of two parts put on paths with different first segments, each goes to its own segment. -/
theorem putAt_putAt_of_ne (h : s ≠ t) (part part' : Datum) :
    (d.putAt (s :: path) part).putAt (t :: other) part' =
      (d.withPart s (putAt path ((d.part? s).getD .null) part)).withPart t
        (putAt other ((d.part? t).getD .null) part') := by
  rw [putAt, putAt, part?_withPart_of_ne h]

theorem bothNew_of_ne (h : s ≠ t) :
    BothNew (s :: path) (t :: other) d ↔ path = [] ∧ other = [] ∧ BothNew [s] [t] d := by
  constructor
  · rintro ⟨init, k, j, entries, hs, ht, hnew⟩
    cases init with
    | nil =>
      obtain ⟨rfl, rfl⟩ := List.cons.inj hs
      obtain ⟨rfl, rfl⟩ := List.cons.inj ht
      exact ⟨rfl, rfl, [], k, j, entries, rfl, rfl, hnew⟩
    | cons u init =>
      obtain ⟨rfl, _⟩ := List.cons.inj hs
      obtain ⟨rfl, _⟩ := List.cons.inj ht
      exact absurd rfl h
  · rintro ⟨rfl, rfl, hnew⟩
    exact hnew

theorem bothNew_cons (hpath : path ≠ []) (hinner : d.part? s = some inner) :
    BothNew (s :: path) (s :: other) d ↔ BothNew path other inner := by
  constructor
  · rintro ⟨init, k, j, entries, hs, ht, hd, hnew⟩
    cases init with
    | nil => exact absurd (List.cons.inj hs).2 hpath
    | cons u init =>
      obtain ⟨rfl, hpath⟩ := List.cons.inj hs
      obtain ⟨-, hother⟩ := List.cons.inj ht
      rw [at?_cons, hinner] at hd
      exact ⟨init, k, j, entries, hpath, hother, hd, hnew⟩
  · rintro ⟨init, k, j, entries, rfl, rfl, hd, hnew⟩
    refine ⟨s :: init, k, j, entries, rfl, rfl, ?_, hnew⟩
    rw [at?_cons, hinner]
    exact hd

/-- A path fits as before after a part was put at another place. -/
theorem fits_putAt (h : Apart path other) (hd : d.Fits path) (part : Datum) :
    (d.putAt path part).Fits other ↔ d.Fits other := by
  induction h generalizing d with
  | here h path other => exact fits_withPart h _
  | after s h ih =>
    obtain ⟨inner, hinner, hfits⟩ := (fits_cons h.ne_nil.1).mp hd
    rw [putAt_cons_of_part? hinner, fits_cons h.ne_nil.2, fits_cons h.ne_nil.2, hinner,
      part?_withPart_self (accepts_of_part? hinner)]
    simpa using ih hfits

/-- Parts can be put at two places in either order. -/
theorem putAt_equal (h : Apart path other) (hd : d.Fits path) (part part' : Datum) :
    EqualUpToOrder ((d.putAt path part).putAt other part')
      ((d.putAt other part').putAt path part) := by
  induction h generalizing d with
  | here h path other =>
    rw [putAt_putAt_of_ne h, putAt_putAt_of_ne (Ne.symm h)]
    exact withPart_equal h d _ _
  | after s h ih =>
    obtain ⟨inner, hinner, hfits⟩ := (fits_cons h.ne_nil.1).mp hd
    rw [putAt_putAt_cons hinner, putAt_putAt_cons hinner]
    exact (ih hfits).withPart s d

/-- The order in which parts were put at two places shows only in the order of two new keys. -/
theorem putAt_comm_iff (h : Apart path other) (hd : d.Fits path) (hd' : d.Fits other)
    (part part' : Datum) :
    (d.putAt path part).putAt other part' = (d.putAt other part').putAt path part ↔
      ¬ BothNew path other d := by
  induction h generalizing d with
  | @here s t h path other =>
    rw [putAt_putAt_of_ne h, putAt_putAt_of_ne (Ne.symm h), bothNew_of_ne h]
    by_cases hnew : BothNew [s] [t] d
    · -- both paths end with their new keys
      obtain ⟨k, j, entries, rfl, rfl, rfl, hk, hj⟩ := bothNew_singleton.mp hnew
      have hk' : (map entries).part? (.key k) = none := Assoc.lookup_eq_none_iff.mpr hk
      have hj' : (map entries).part? (.key j) = none := Assoc.lookup_eq_none_iff.mpr hj
      obtain rfl := hd.eq_nil hk'
      obtain rfl := hd'.eq_nil hj'
      simpa [hnew] using withPart_ne h hnew _ _
    · simpa [hnew] using withPart_comm h hnew _ _
  | after s h ih =>
    obtain ⟨inner, hinner, hfits⟩ := (fits_cons h.ne_nil.1).mp hd
    obtain ⟨inner', hinner', hfits'⟩ := (fits_cons h.ne_nil.2).mp hd'
    obtain rfl : inner = inner' := Option.some.inj (hinner.symm.trans hinner')
    rw [putAt_putAt_cons hinner, putAt_putAt_cons hinner,
      withPart_inj (accepts_of_part? hinner), bothNew_cons h.ne_nil.1 hinner]
    exact ih hfits hfits'

/-- A part put at a place, or around it, hides the part that was put there before. -/
theorem putAt_putAt_of_append {rest : List Segment} (hd : d.Fits (path ++ rest))
    (part part' : Datum) : (d.putAt (path ++ rest) part).putAt path part' = d.putAt path part' := by
  induction path generalizing d with
  | nil => rfl
  | cons s path ih =>
    rw [List.cons_append] at hd ⊢
    cases hinner : d.part? s with
    | none =>
      obtain ⟨rfl, rfl⟩ := List.append_eq_nil_iff.mp (hd.eq_nil hinner)
      rw [putAt, putAt, putAt, withPart_withPart_self]
      rfl
    | some inner =>
      rw [putAt_putAt_cons hinner, putAt_cons_of_part? hinner]
      by_cases hne : path ++ rest = []
      · obtain ⟨rfl, rfl⟩ := List.append_eq_nil_iff.mp hne
        rfl
      · obtain ⟨inner', h, hfits⟩ := (fits_cons hne).mp hd
        obtain rfl : inner = inner' := Option.some.inj (hinner.symm.trans h)
        rw [ih hfits]

/-- Where a path fits, every beginning of it fits as well. -/
theorem Fits.of_append {rest : List Segment} (h : d.Fits (path ++ rest)) (hpath : path ≠ []) :
    d.Fits path := by
  induction path generalizing d with
  | nil => exact absurd rfl hpath
  | cons s path ih =>
    by_cases hne : path = []
    · subst hne
      exact h.accepts
    · rw [List.cons_append, fits_cons (by simp [hne])] at h
      obtain ⟨inner, hinner, hfits⟩ := h
      exact (fits_cons hne).mpr ⟨inner, hinner, ih hfits hne⟩

/-- A beginning of a path fits as well after a part was put at the path. -/
theorem fits_putAt_of_append {rest : List Segment} (h : d.Fits (path ++ rest)) (hpath : path ≠ [])
    (part : Datum) : (d.putAt (path ++ rest) part).Fits path := by
  induction path generalizing d with
  | nil => exact absurd rfl hpath
  | cons s path ih =>
    by_cases hne : path = []
    · subst hne
      exact (accepts_withPart _).mpr h.accepts
    · rw [List.cons_append, fits_cons (by simp [hne])] at h
      obtain ⟨inner, hinner, hfits⟩ := h
      rw [List.cons_append, putAt_cons_of_part? hinner]
      exact (fits_cons hne).mpr
        ⟨_, part?_withPart_self (accepts_of_part? hinner) _, ih hfits hne⟩

end Paths

end Datum

namespace Patch

variable {p q : Patch} {data d : Datum}

theorem exists_apply_iff : (∃ d, p.apply data = .ok d) ↔ data.Fits p.path := by
  simp [apply_eq_ok]

/-- Two patches at different places apply in turn to the value with both of theirs put into it. -/
theorem applyAll_pair (h : Apart p.path q.path) :
    applyAll [p, q] data = .ok d ↔ data.Fits p.path ∧ data.Fits q.path ∧
      d = (data.putAt p.path p.value).putAt q.path q.value := by
  rw [applyAll_cons, bind_eq_ok]
  constructor
  · rintro ⟨d', hp, hq⟩
    obtain ⟨hfits, rfl⟩ := apply_eq_ok.mp hp
    rw [applyAll_cons, bind_eq_ok] at hq
    obtain ⟨d'', hq, hd⟩ := hq
    cases hd
    obtain ⟨hfits', rfl⟩ := apply_eq_ok.mp hq
    exact ⟨hfits, (Datum.fits_putAt h hfits _).mp hfits', rfl⟩
  · rintro ⟨hfits, hfits', rfl⟩
    refine ⟨_, apply_eq_ok.mpr ⟨hfits, rfl⟩, ?_⟩
    rw [applyAll_cons, bind_eq_ok]
    exact ⟨_, apply_eq_ok.mpr ⟨(Datum.fits_putAt h hfits _).mpr hfits', rfl⟩, rfl⟩

theorem exists_applyAll_pair_iff (h : Apart p.path q.path) :
    (∃ d, applyAll [p, q] data = .ok d) ↔
      (∃ d, p.apply data = .ok d) ∧ ∃ d, q.apply data = .ok d := by
  rw [exists_apply_iff, exists_apply_iff]
  constructor
  · rintro ⟨d, hd⟩
    obtain ⟨hp, hq, _⟩ := (applyAll_pair h).mp hd
    exact ⟨hp, hq⟩
  · rintro ⟨hp, hq⟩
    exact ⟨_, (applyAll_pair h).mpr ⟨hp, hq, rfl⟩⟩

/-- A patch has the outcome that it has alone after one that applies in its place or inside it. -/
theorem applyAll_pair_of_inside (h : q.path <+: p.path) (hp : p.apply data = .ok d) :
    applyAll [p, q] data = q.apply data := by
  obtain ⟨rest, hrest⟩ := h
  obtain ⟨hfits, rfl⟩ := apply_eq_ok.mp hp
  rw [applyAll_cons, hp, ok_bind, applyAll_cons]
  suffices heq : q.apply (data.putAt p.path p.value) = q.apply data by
    rw [heq]
    exact bind_pure _
  by_cases hq : q.path = []
  · simp [apply, hq]
  · rw [← hrest] at hfits ⊢
    rw [apply_eq_ok.mpr ⟨Datum.fits_putAt_of_append hfits hq _, rfl⟩,
      apply_eq_ok.mpr ⟨hfits.of_append hq, rfl⟩, Datum.putAt_putAt_of_append hfits]

/-- Two patches whose paths part apply in either order exactly when each of them applies alone, and
to the same value; the order of keys is the same too, unless both make a new key of one object. A
patch after another one at the same place or inside of it has the outcome that it has alone. -/
theorem order_matters_only_nested (p q : Patch) (data : Datum) :
    (¬ p.path <+: q.path → ¬ q.path <+: p.path →
      ((∃ d, applyAll [p, q] data = .ok d) ↔
        (∃ d, p.apply data = .ok d) ∧ ∃ d, q.apply data = .ok d) ∧
      ((∃ d, applyAll [q, p] data = .ok d) ↔
        (∃ d, p.apply data = .ok d) ∧ ∃ d, q.apply data = .ok d) ∧
      ∀ d d', applyAll [p, q] data = .ok d → applyAll [q, p] data = .ok d' →
        d.EqualUpToOrder d' ∧ (d = d' ↔ ¬ Datum.BothNew p.path q.path data)) ∧
    (q.path <+: p.path → ∀ d, p.apply data = .ok d →
      applyAll [p, q] data = q.apply data ∧ (q.path ≠ [] → ∃ d', q.apply data = .ok d')) := by
  constructor
  · intro hl hr
    have h : Apart p.path q.path := apart_iff.mpr ⟨hl, hr⟩
    refine ⟨?_, ?_, fun d d' hd hd' ↦ ?_⟩
    · exact exists_applyAll_pair_iff h
    · rw [exists_applyAll_pair_iff h.symm, and_comm]
    · obtain ⟨hp, hq, rfl⟩ := (applyAll_pair h).mp hd
      obtain ⟨-, -, rfl⟩ := (applyAll_pair h.symm).mp hd'
      exact ⟨Datum.putAt_equal h hp _ _, Datum.putAt_comm_iff h hp hq _ _⟩
  · intro h d hd
    refine ⟨applyAll_pair_of_inside h hd, fun hq ↦ ?_⟩
    obtain ⟨rest, hrest⟩ := h
    have hfits := (apply_eq_ok.mp hd).1
    rw [← hrest] at hfits
    exact exists_apply_iff.mpr (hfits.of_append hq)

end Patch

end ScriptDefs
