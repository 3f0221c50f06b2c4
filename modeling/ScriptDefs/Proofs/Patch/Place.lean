import Mathlib.Data.List.Infix
import ScriptDefs.Patch.Apply
import ScriptDefs.Proofs.Data.Assoc
import ScriptDefs.Proofs.Data.Inherited

/-!
# Places in plain data

A path leads to a part of a value, one segment at a time. Here are reading the part at a path,
putting another one in its place, and the laws of both: a part that was put is read back, parts on
paths that neither begin nor continue its path stay as they are, and so does the layout of every
container on the way.
-/

namespace ScriptDefs

namespace Datum

/-! ## One segment -/

/-- The part that a segment leads to. -/
def part? : Segment → Datum → Option Datum
  | .key k, .map entries => Fields.get? entries k
  | .index n, .list items => items[n]?
  | _, _ => none

/-- A part can be put where a segment leads: under any key of an object, at an index in the range of
an array. -/
def Accepts : Segment → Datum → Prop
  | .key _, .map _ => True
  | .index n, .list items => n < items.length
  | _, _ => False

/-- The value with a part put where a segment leads. -/
def withPart : Segment → Datum → Datum → Datum
  | .key k, .map entries, part => .map (Assoc.put (.text k) part entries)
  | .index n, .list items, part => .list (items.set n part)
  | _, d, _ => d

/-- Two containers have the same layout but for the place of a segment: arrays of the same length,
or objects with the same keys in the same order, to which the key of the segment is added as the
last one if it is new. -/
def SameLayout : Segment → Datum → Datum → Prop
  | .key k, .map entries, .map entries' =>
    Assoc.keys entries' =
      if .text k ∈ Assoc.keys entries then Assoc.keys entries
      else Assoc.keys entries ++ [.text k]
  | .index _, .list items, .list items' => items'.length = items.length
  | _, _, _ => False

theorem accepts_of_part? {s : Segment} {d part : Datum} (h : d.part? s = some part) :
    d.Accepts s := by
  cases s with
  | key k =>
    cases d with
    | map entries => trivial
    | _ => simp [part?] at h
  | index n =>
    cases d with
    | list items => exact (List.getElem?_eq_some_iff.mp h).1
    | _ => simp [part?] at h

/-- A part that was put is read back. -/
theorem part?_withPart_self {s : Segment} {d : Datum} (h : d.Accepts s) (part : Datum) :
    (d.withPart s part).part? s = some part := by
  cases s with
  | key k =>
    cases d with
    | map entries => exact Assoc.lookup_put_self _ _ _
    | _ => simp [Accepts] at h
  | index n =>
    cases d with
    | list items => exact List.getElem?_set_self h
    | _ => simp [Accepts] at h

/-- Putting a part leaves the parts at other segments alone. -/
theorem part?_withPart_of_ne {s t : Segment} (h : s ≠ t) (d part : Datum) :
    (d.withPart s part).part? t = d.part? t := by
  cases s with
  | key k =>
    cases d with
    | map entries =>
      cases t with
      | key j =>
        have hne : Scalar.text k ≠ .text j := by simpa using h
        exact Assoc.lookup_put_of_ne hne _ _
      | index n => rfl
    | _ => rfl
  | index n =>
    cases d with
    | list items =>
      cases t with
      | key k => rfl
      | index m => exact List.getElem?_set_ne (by simpa using h)
    | _ => rfl

/-- Putting a part keeps the layout of the container. -/
theorem sameLayout_withPart {s : Segment} {d : Datum} (h : d.Accepts s) (part : Datum) :
    SameLayout s d (d.withPart s part) := by
  cases s with
  | key k =>
    cases d with
    | map entries => exact Assoc.keys_put _ _ _
    | _ => simp [Accepts] at h
  | index n =>
    cases d with
    | list items => exact List.length_set
    | _ => simp [Accepts] at h

/-- The last step of a patch succeeds exactly on what accepts its segment. -/
theorem assign_eq_ok {value : Datum} {s : Segment} {d d' : Datum} :
    assign value s d = .ok d' ↔ d.Accepts s ∧ d' = d.withPart s value := by
  cases s with
  | key k =>
    cases d with
    | map entries => simp [assign, Accepts, withPart, eq_comm]
    | _ => simp [assign, Accepts]
  | index n =>
    cases d with
    | list items =>
      by_cases h : n < items.length
      · simp [assign, Accepts, withPart, h, eq_comm]
      · simp [assign, Accepts, h]
    | _ => simp [assign, Accepts]

/-! ## Paths -/

/-- The part that a path leads to. -/
def at? : List Segment → Datum → Option Datum
  | [], d => some d
  | s :: path, d => (d.part? s).bind (at? path)

/-- The value with a part put where a path leads. Where nothing is on the way, an empty place is
taken instead. -/
def putAt : List Segment → Datum → Datum → Datum
  | [], _, part => part
  | s :: path, d, part => d.withPart s (putAt path ((d.part? s).getD .null) part)

/-- A part can be put where a path leads: all its segments but the last lead to something that is
there, and the last one is accepted there. -/
def Fits : List Segment → Datum → Prop
  | [], _ => False
  | [s], d => d.Accepts s
  | s :: next :: path, d => ∃ inner, d.part? s = some inner ∧ Fits (next :: path) inner

@[simp] theorem at?_cons (s : Segment) (path : List Segment) (d : Datum) :
    d.at? (s :: path) = (d.part? s).bind (at? path) := rfl

theorem putAt_cons_of_part? {s : Segment} {d inner : Datum} (h : d.part? s = some inner)
    (path : List Segment) (part : Datum) :
    d.putAt (s :: path) part = d.withPart s (inner.putAt path part) := by
  rw [putAt, h, Option.getD_some]

theorem Fits.accepts {s : Segment} {path : List Segment} {d : Datum} (h : d.Fits (s :: path)) :
    d.Accepts s := by
  cases path with
  | nil => exact h
  | cons next path =>
    obtain ⟨inner, hinner, _⟩ := h
    exact accepts_of_part? hinner

theorem fits_iff {path : List Segment} {d : Datum} :
    d.Fits path ↔ ∃ init last container,
      path = init ++ [last] ∧ d.at? init = some container ∧ container.Accepts last := by
  induction path generalizing d with
  | nil => simp [Fits]
  | cons s path ih =>
    cases path with
    | nil =>
      constructor
      · intro h
        exact ⟨[], s, d, rfl, rfl, h⟩
      · rintro ⟨init, last, container, hpath, hat, h⟩
        cases init with
        | nil =>
          cases hpath
          cases hat
          exact h
        | cons t init => simp at hpath
    | cons next path =>
      constructor
      · rintro ⟨inner, hinner, h⟩
        obtain ⟨init, last, container, hpath, hat, hlast⟩ := ih.mp h
        refine ⟨s :: init, last, container, by rw [hpath, List.cons_append], ?_, hlast⟩
        rw [at?_cons, hinner]
        exact hat
      · rintro ⟨init, last, container, hpath, hat, hlast⟩
        cases init with
        | nil => simp at hpath
        | cons t init =>
          rw [List.cons_append] at hpath
          obtain ⟨rfl, htail⟩ := List.cons.inj hpath
          obtain ⟨inner, hinner, hat⟩ := Option.bind_eq_some_iff.mp hat
          exact ⟨inner, hinner, ih.mpr ⟨init, last, container, htail, hat, hlast⟩⟩

/-- The part that was put at a path is read back. -/
theorem at?_putAt_self {path : List Segment} {d : Datum} (h : d.Fits path) (part : Datum) :
    (d.putAt path part).at? path = some part := by
  induction path generalizing d with
  | nil => rfl
  | cons s path ih =>
    rw [putAt, at?_cons, part?_withPart_self h.accepts]
    cases path with
    | nil => rfl
    | cons next path =>
      obtain ⟨inner, hinner, h⟩ := h
      rw [hinner]
      exact ih h

/-- Parts at paths of which neither begins with the other are independent. -/
theorem at?_putAt_of_disjoint {path other : List Segment} {d : Datum} (h : d.Fits path)
    (hl : ¬ path <+: other) (hr : ¬ other <+: path) (part : Datum) :
    (d.putAt path part).at? other = d.at? other := by
  induction path generalizing d other with
  | nil => exact absurd List.nil_prefix hl
  | cons s path ih =>
    cases other with
    | nil => exact absurd List.nil_prefix hr
    | cons t other =>
      rw [putAt, at?_cons, at?_cons]
      by_cases hst : s = t
      · -- the paths part later
        subst hst
        have hl : ¬ path <+: other := fun hp ↦ hl (List.cons_prefix_cons.mpr ⟨rfl, hp⟩)
        have hr : ¬ other <+: path := fun hp ↦ hr (List.cons_prefix_cons.mpr ⟨rfl, hp⟩)
        rw [part?_withPart_self h.accepts]
        cases path with
        | nil => exact absurd List.nil_prefix hl
        | cons next path =>
          obtain ⟨inner, hinner, h⟩ := h
          rw [hinner]
          exact ih h hl hr
      · rw [part?_withPart_of_ne hst]

/-- Every container on a path keeps its layout. -/
theorem sameLayout_putAt {path init rest : List Segment} {s : Segment} {d : Datum} (h : d.Fits path)
    (hpath : path = init ++ s :: rest) (part : Datum) :
    ∃ c c', d.at? init = some c ∧ (d.putAt path part).at? init = some c' ∧ SameLayout s c c' := by
  induction init generalizing d path with
  | nil =>
    subst hpath
    exact ⟨d, _, rfl, rfl, sameLayout_withPart h.accepts _⟩
  | cons t init ih =>
    subst hpath
    obtain ⟨next, tail, htail⟩ : ∃ next tail, init ++ s :: rest = next :: tail := by
      cases init <;> exact ⟨_, _, rfl⟩
    rw [List.cons_append, htail] at h ⊢
    obtain ⟨inner, hinner, hfits⟩ := h
    obtain ⟨c, c', hc, hc', hlayout⟩ := ih hfits htail.symm
    refine ⟨c, c', ?_, ?_, hlayout⟩
    · rw [at?_cons, hinner]
      exact hc
    · rw [putAt_cons_of_part? hinner, at?_cons, part?_withPart_self (accepts_of_part? hinner)]
      exact hc'

/-- Two values agree but for the part at a path: it is read from the second one, parts to which
neither a beginning nor a continuation of the path leads are the same, and so is the layout of all
containers on the way. -/
structure ChangedAt (path : List Segment) (part d d' : Datum) : Prop where
  read : d'.at? path = some part
  others : ∀ other, ¬ path <+: other → ¬ other <+: path → d'.at? other = d.at? other
  layout : ∀ init s rest, path = init ++ s :: rest →
    ∃ c c', d.at? init = some c ∧ d'.at? init = some c' ∧ SameLayout s c c'

theorem changedAt_putAt {path : List Segment} {d : Datum} (h : d.Fits path) (part : Datum) :
    ChangedAt path part d (d.putAt path part) where
  read := at?_putAt_self h part
  others _ hl hr := at?_putAt_of_disjoint h hl hr part
  layout _ _ _ hpath := sameLayout_putAt h hpath part

/-! ## Inherited properties -/

section Inherited

variable {R : Datum → Prop} (hR : Inherited R)
include hR

theorem Inherited.part? {s : Segment} {d part : Datum} (h : R d) (hpart : d.part? s = some part) :
    R part := by
  cases s with
  | key k =>
    cases d with
    | map entries => exact hR.get? h hpart
    | _ => cases hpart
  | index n =>
    cases d with
    | list items => exact (hR.list items).mp h part (List.mem_of_getElem? hpart)
    | _ => cases hpart

variable (hkey : ∀ t : Text, R (.text t))
include hkey

theorem Inherited.withPart (s : Segment) {d part : Datum} (h : R d) (hpart : R part) :
    R (d.withPart s part) := by
  cases s with
  | key k =>
    cases d with
    | map entries =>
      refine (hR.map _).mpr fun e he ↦ ?_
      rcases Assoc.mem_of_mem_put he with hmem | rfl
      · exact (hR.map _).mp h e hmem
      · exact ⟨hkey k, hpart⟩
    | _ => exact h
  | index n =>
    cases d with
    | list items =>
      refine (hR.list _).mpr fun d hd ↦ ?_
      rcases List.mem_or_eq_of_mem_set hd with hmem | rfl
      · exact (hR.list _).mp h d hmem
      · exact hpart
    | _ => exact h

/-- What a value and a part have in common, the value with the part put into it has too. -/
theorem Inherited.putAt {path : List Segment} {d part : Datum} (h : R d) (hpart : R part) :
    R (d.putAt path part) := by
  induction path generalizing d with
  | nil => exact hpart
  | cons s path ih =>
    rw [Datum.putAt]
    refine hR.withPart hkey s h (ih ?_)
    cases hinner : d.part? s with
    | none => exact hR.null
    | some inner => exact hR.part? h hinner

end Inherited

/-! ## Patches -/

/-- A value is put where a path leads, if it can be put into the part that the first segment leads
to. -/
theorem assignFrom_cons_eq_ok {value : Datum} {depth : Nat} {s next : Segment}
    {path : List Segment} {d d' : Datum} :
    assignFrom value depth s (next :: path) d = .ok d' ↔
      ∃ inner, d.part? s = some inner ∧
        ∃ inner', assignFrom value (depth + 1) next path inner = .ok inner' ∧
          d' = d.withPart s inner' := by
  cases s with
  | key k =>
    cases d with
    | map entries =>
      rw [assignFrom]
      cases hpart : Fields.get? entries k with
      | none => simp [part?, hpart]
      | some inner => simp [bind_eq_ok, part?, hpart, withPart, @eq_comm _ d']
    | _ => simp [assignFrom, part?]
  | index n =>
    cases d with
    | list items =>
      rw [assignFrom]
      cases hpart : items[n]? with
      | none => simp [part?, hpart]
      | some inner => simp [bind_eq_ok, part?, hpart, withPart, @eq_comm _ d']
    | _ => simp [assignFrom, part?]

/-- A value is put exactly where the path fits. -/
theorem assignFrom_eq_ok {value : Datum} {depth : Nat} {s : Segment} {path : List Segment}
    {d d' : Datum} :
    assignFrom value depth s path d = .ok d' ↔
      d.Fits (s :: path) ∧ d' = d.putAt (s :: path) value := by
  induction path generalizing depth s d d' with
  | nil => rw [assignFrom, assign_eq_ok]; rfl
  | cons next path ih =>
    rw [assignFrom_cons_eq_ok]
    constructor
    · rintro ⟨inner, hinner, inner', h, rfl⟩
      obtain ⟨hfits, rfl⟩ := ih.mp h
      exact ⟨⟨inner, hinner, hfits⟩, (putAt_cons_of_part? hinner _ _).symm⟩
    · rintro ⟨⟨inner, hinner, hfits⟩, rfl⟩
      exact ⟨inner, hinner, _, ih.mpr ⟨hfits, rfl⟩, putAt_cons_of_part? hinner _ _⟩

end Datum

/-- What becomes of a patch with a path. -/
theorem Patch.apply_of_path (p : Patch) {segment : Segment} {path : List Segment}
    (hpath : p.path = segment :: path) (data : Datum) :
    p.apply data =
      (Datum.assignFrom p.value 0 segment path data).mapError p.failure := by
  simp only [apply, hpath]
  cases Datum.assignFrom p.value 0 segment path data <;> rfl

end ScriptDefs
