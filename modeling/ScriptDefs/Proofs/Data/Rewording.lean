import ScriptDefs.Proofs.Data.Related

/-!
# Reworded data

Two values that are the same but for one text in the place of another, at some of certain addresses.
An address also tells how long the arrays are that it leads through.
-/

namespace ScriptDefs

/-- One step into plain data: to the value of a key, or to an item of an array of some length. -/
inductive Step where
  | key (k : Scalar)
  | item (index length : Nat)

/-- A way into plain data. -/
abbrev Address := List Step

/-- Places in plain data. -/
abbrev Sites := Address → Prop

namespace Sites

/-- The sites in the part that a step leads to. -/
def below (S : Sites) (s : Step) : Sites := fun a ↦ S (s :: a)

/-- All sites are under some keys. -/
def Only (keys : List Text) (S : Sites) : Prop :=
  ∀ a, S a → ∃ key ∈ keys, ∃ b, a = .key (.text key) :: b

end Sites

namespace Datum

/-- The values are the same but for a new text in the place of an old one, at some of the sites. -/
inductive Reworded (old new : Text) : Sites → Datum → Datum → Prop where
  | same (S : Sites) (d : Datum) : Reworded old new S d d
  | text (S : Sites) (h : S []) : Reworded old new S (.text old) (.text new)
  | list {S : Sites} {xs ys : List Datum} (hlength : xs.length = ys.length)
    (h : ∀ (i : Nat) x y, xs[i]? = some x → ys[i]? = some y →
      Reworded old new (S.below (.item i xs.length)) x y) :
    Reworded old new S (.list xs) (.list ys)
  | map {S : Sites} {f g : List (Scalar × Datum)} (hkeys : f.map (·.1) = g.map (·.1))
    (h : ∀ (i : Nat) k x y, f[i]? = some (k, x) → g[i]? = some (k, y) →
      Reworded old new (S.below (.key k)) x y) :
    Reworded old new S (.map f) (.map g)

/-- The part of a value at an address. -/
def find? : Address → Datum → Option Datum
  | [], d => some d
  | .key k :: a, .map entries => (entries.lookup k).bind (find? a)
  | .item i n :: a, .list items => if items.length = n then items[i]?.bind (find? a) else none
  | _ :: _, _ => none

end Datum

/-- The entries are reworded under their keys. -/
def Fields.Reworded (old new : Text) (S : Sites) : Fields → Fields → Prop :=
  EntriesRelated fun k ↦ Datum.Reworded old new (S.below (.key k))

/-- The items are reworded at their indexes in an array of a certain length. -/
def Datum.ItemsReworded (old new : Text) (S : Sites) (length : Nat) :
    List Datum → List Datum → Prop :=
  ItemsRelated (fun i ↦ Datum.Reworded old new (S.below (.item i length))) 0

namespace Datum.Reworded

variable {old new : Text} {S T : Sites}

theorem list_iff {xs ys : List Datum} :
    Reworded old new S (.list xs) (.list ys) ↔ ItemsReworded old new S xs.length xs ys := by
  constructor
  · intro h
    cases h with
    | same => exact .refl (fun _ d ↦ .same _ d) 0 xs
    | list hlength h =>
      rw [ItemsReworded, itemsRelated_iff]
      simpa using ⟨hlength, h⟩
  · intro h
    rw [ItemsReworded, itemsRelated_iff] at h
    exact .list h.1 (by simpa using h.2)

theorem map_iff {f g : Fields} :
    Reworded old new S (.map f) (.map g) ↔ Fields.Reworded old new S f g := by
  constructor
  · intro h
    cases h with
    | same => exact .refl (fun _ d ↦ .same _ d) f
    | map hkeys h => exact entriesRelated_iff.mpr ⟨hkeys, h⟩
  · intro h
    obtain ⟨hkeys, h⟩ := entriesRelated_iff.mp h
    exact .map hkeys h

/-- Objects are reworded when their fields are. -/
theorem object {f g : List (Text × Datum)}
    (h : EntriesRelated (fun k ↦ Reworded old new (S.below (.key (.text k)))) f g) :
    Reworded old new S (.object f) (.object g) := by
  rw [Datum.object, Datum.object, map_iff]
  induction h with
  | nil => exact .nil
  | cons h _ ih => exact .cons h ih

/-- More places may be sites. -/
theorem mono {x y : Datum} (h : Reworded old new S x y) (hST : ∀ a, S a → T a) :
    Reworded old new T x y := by
  induction h generalizing T with
  | same S d => exact .same T d
  | text S h => exact .text T (hST [] h)
  | list hlength _ ih => exact .list hlength fun i x y hx hy ↦ ih i x y hx hy fun a ↦ hST _
  | map hkeys _ ih => exact .map hkeys fun i k x y hx hy ↦ ih i k x y hx hy fun a ↦ hST _

/-- Without sites, values are the same. -/
theorem eq_of_no_sites {x y : Datum} (h : Reworded old new S x y) (hS : ∀ a, ¬ S a) : x = y := by
  induction h with
  | same S d => rfl
  | text S h => exact absurd h (hS [])
  | @list S xs ys hlength _ ih =>
    congr 1
    apply List.ext_getElem hlength
    intro i hx hy
    exact ih i _ _ (List.getElem?_eq_getElem hx) (List.getElem?_eq_getElem hy) fun a ↦ hS _
  | @map S f g hkeys _ ih =>
    congr 1
    have hlength : f.length = g.length := by simpa using congrArg List.length hkeys
    apply List.ext_getElem hlength
    intro i hf hg
    have hk : f[i].1 = g[i].1 := by
      have := congrArg (·[i]?) hkeys
      simpa [hf, hg] using this
    have hv := ih i f[i].1 f[i].2 g[i].2 (List.getElem?_eq_getElem hf)
      (by rw [hk]; exact List.getElem?_eq_getElem hg) fun a ↦ hS _
    exact Prod.ext hk hv

/-- Where nothing can be a site but the whole value, only the whole can be another text. -/
theorem eq_or_text {x y : Datum} (h : Reworded old new S x y) (hS : ∀ a, S a → a = []) :
    x = y ∨ S [] ∧ x = .text old ∧ y = .text new := by
  cases h with
  | same => exact .inl rfl
  | text _ h => exact .inr ⟨h, rfl, rfl⟩
  | @list _ xs ys hlength h =>
    have hnone : Reworded old new (fun _ ↦ False) (.list xs) (.list ys) :=
      .list hlength fun i x y hx hy ↦ (h i x y hx hy).mono fun a ha ↦ by cases hS _ ha
    exact .inl (hnone.eq_of_no_sites fun _ h ↦ h)
  | @map _ f g hkeys h =>
    have hnone : Reworded old new (fun _ ↦ False) (.map f) (.map g) :=
      .map hkeys fun i k x y hx hy ↦ (h i k x y hx hy).mono fun a ha ↦ by cases hS _ ha
    exact .inl (hnone.eq_of_no_sites fun _ h ↦ h)

/-- Reworded values that have to be objects. -/
theorem requireMap {x y : Datum} (h : Reworded old new S x y) (place : Text) :
    SameOutcome (Fields.Reworded old new S) (x.requireMap place) (y.requireMap place) := by
  cases h with
  | same => exact .refl (fun f ↦ map_iff.mp (.same S (.map f))) _
  | text => exact .error _
  | list => exact .error _
  | map hkeys h => exact .ok (map_iff.mp (.map hkeys h))

/-- Reworded values that have to be arrays. -/
theorem requireList {x y : Datum} (h : Reworded old new S x y) (place : Text) :
    SameOutcome (fun xs ↦ ItemsReworded old new S xs.length xs)
      (x.requireList place) (y.requireList place) := by
  cases h with
  | same => exact .refl (fun xs ↦ list_iff.mp (.same S (.list xs))) _
  | text => exact .error _
  | list hlength h => exact .ok (list_iff.mp (.list hlength h))
  | map => exact .error _

end Datum.Reworded

namespace Fields

variable {old new : Text} {S : Sites} {f g : Fields}

theorem Reworded.get? (h : Reworded old new S f g) (key : Text) :
    (f.get? key = none ∧ g.get? key = none) ∨
      ∃ x y, f.get? key = some x ∧ g.get? key = some y ∧
        Datum.Reworded old new (S.below (.key (.text key))) x y :=
  EntriesRelated.lookup h (.text key)

/-- A field without sites is the same. -/
theorem Reworded.get?_eq (h : Reworded old new S f g) {key : Text}
    (hkey : ∀ a, ¬ S (.key (.text key) :: a)) : f.get? key = g.get? key := by
  rcases h.get? key with ⟨hf, hg⟩ | ⟨x, y, hf, hg, hxy⟩
  · rw [hf, hg]
  · rw [hf, hg, hxy.eq_of_no_sites hkey]

theorem Reworded.require (h : Reworded old new S f g) (place key : Text) :
    SameOutcome (Datum.Reworded old new (S.below (.key (.text key))))
      (f.require place key) (g.require place key) := by
  rcases h.get? key with ⟨hf, hg⟩ | ⟨x, y, hf, hg, hxy⟩
  · rw [Fields.require, Fields.require, hf, hg]
    exact .error _
  · rw [Fields.require, Fields.require, hf, hg]
    exact .ok hxy

theorem Reworded.optionalMap (h : Reworded old new S f g) (key place : Text) :
    SameOutcome (Reworded old new (S.below (.key (.text key))))
      (f.optionalMap key place) (g.optionalMap key place) := by
  rcases h.get? key with ⟨hf, hg⟩ | ⟨x, y, hf, hg, hxy⟩
  · rw [Fields.optionalMap, Fields.optionalMap, hf, hg]
    exact .ok .nil
  · rw [Fields.optionalMap, Fields.optionalMap, hf, hg]
    exact hxy.requireMap place

theorem Reworded.optionalList (h : Reworded old new S f g) (key place : Text) :
    SameOutcome (fun xs ↦ Datum.ItemsReworded old new (S.below (.key (.text key))) xs.length xs)
      (f.optionalList key place) (g.optionalList key place) := by
  rcases h.get? key with ⟨hf, hg⟩ | ⟨x, y, hf, hg, hxy⟩
  · rw [Fields.optionalList, Fields.optionalList, hf, hg]
    exact .ok (.nil 0)
  · rw [Fields.optionalList, Fields.optionalList, hf, hg]
    exact hxy.requireList place

/-! ## The same fields -/

/-- The fields under all other keys are the same. -/
def AgreeOff (keys : List Text) (f g : Fields) : Prop :=
  ∀ key, key ∉ keys → f.get? key = g.get? key

/-- Only the fields that have sites can differ. -/
theorem Reworded.agreeOff (h : Reworded old new S f g) {keys : List Text} (hS : S.Only keys) :
    AgreeOff keys f g := by
  intro key hkey
  apply h.get?_eq
  intro a ha
  obtain ⟨k, hk, b, hb⟩ := hS _ ha
  cases hb
  exact hkey hk

namespace AgreeOff

variable {keys : List Text} {key : Text} (h : AgreeOff keys f g) (place : Text)

include h

theorem get (hkey : key ∉ keys) : f.get key = g.get key := by
  rw [Fields.get, Fields.get, h key hkey]

theorem require (hkey : key ∉ keys) : f.require place key = g.require place key := by
  rw [Fields.require, Fields.require, h key hkey]

theorem requireText (hkey : key ∉ keys) : f.requireText place key = g.requireText place key := by
  rw [Fields.requireText, Fields.requireText, h.require place hkey]

theorem optionalText (hkey : key ∉ keys) : f.optionalText place key = g.optionalText place key := by
  rw [Fields.optionalText, Fields.optionalText, h.get hkey]

theorem flag (hkey : key ∉ keys) : f.flag place key = g.flag place key := by
  rw [Fields.flag, Fields.flag, h key hkey]

theorem expectDef (hkey : ("def" : Text) ∉ keys) (expected : Text) :
    f.expectDef place expected = g.expectDef place expected := by
  rw [Fields.expectDef, Fields.expectDef, h.get hkey]

theorem numberOrNull (hkey : key ∉ keys) : f.numberOrNull place key = g.numberOrNull place key := by
  rw [Fields.numberOrNull, Fields.numberOrNull, h.get hkey]

theorem orEmptyText (hkey : key ∉ keys) : f.orEmptyText key = g.orEmptyText key := by
  rw [Fields.orEmptyText, Fields.orEmptyText, h.get hkey]

theorem optionalList (hkey : key ∉ keys) : f.optionalList key place = g.optionalList key place := by
  rw [Fields.optionalList, Fields.optionalList, h key hkey]

theorem optionalMap (hkey : key ∉ keys) : f.optionalMap key place = g.optionalMap key place := by
  rw [Fields.optionalMap, Fields.optionalMap, h key hkey]

theorem constantValue (hkey : ("value" : Text) ∉ keys) :
    f.constantValue place = g.constantValue place := by
  rw [Fields.constantValue, Fields.constantValue, h.get hkey]

end AgreeOff

end Fields

/-! ## Reading reworded parts -/

section Forms

variable {α : Type} {old new : Text} {S : Sites} {write : α → Datum}
  {read : Text → Datum → Except ShapeError α}

/-- The plain forms of two values are reworded. -/
def FormsReworded (old new : Text) (S : Sites) (write : α → Datum) (a b : α) : Prop :=
  Datum.Reworded old new S (write a) (write b)

/-- The plain forms of the items of two lists are reworded. -/
def ListReworded (old new : Text) (S : Sites) (write : α → Datum) (as bs : List α) : Prop :=
  ItemsRelated (fun i ↦ FormsReworded old new (S.below (.item i as.length)) write) 0 as bs

/-- The plain forms of the values of two maps are reworded. -/
def MapReworded (old new : Text) (S : Sites) (write : α → Datum) :
    Assoc Text α → Assoc Text α → Prop :=
  EntriesRelated fun k ↦ FormsReworded old new (S.below (.key (.text k))) write

theorem FormsReworded.refl (a : α) : FormsReworded old new S write a a := .same S (write a)

theorem MapReworded.refl (m : Assoc Text α) : MapReworded old new S write m m :=
  EntriesRelated.refl (fun _ a ↦ FormsReworded.refl a) m

theorem ListReworded.toDatum {as bs : List α} (h : ListReworded old new S write as bs) :
    Datum.Reworded old new S (.list (as.map write)) (.list (bs.map write)) := by
  rw [Datum.Reworded.list_iff, List.length_map]
  exact h.map fun _ _ _ h ↦ h

theorem MapReworded.toDatum {m n : Assoc Text α} (h : MapReworded old new S write m n) :
    Datum.Reworded old new S (.object (m.mapValues write)) (.object (n.mapValues write)) :=
  .object (h.mapValues fun _ _ _ h ↦ h)

/-- Reworded items are read with the same outcome if each of them is. -/
theorem readEach_reworded {xs ys : List Datum}
    (h : Datum.ItemsReworded old new S xs.length xs ys)
    (hread : ∀ i n x y, Datum.Reworded old new (S.below (.item i n)) x y → ∀ place,
      SameOutcome (FormsReworded old new (S.below (.item i n)) write) (read place x) (read place y))
    (place : Text) :
    SameOutcome (ListReworded old new S write) (readEach read place 0 xs)
      (readEach read place 0 ys) := by
  refine (sameOutcome_readEach h (fun i x y ↦ hread i _ x y) place).mono ?_
  rintro as bs ⟨hlength, hs⟩
  rw [ListReworded, hlength]
  exact hs

/-- Reworded members are read with the same outcome if each of them is. -/
theorem readMembers_reworded {f g : Fields} (h : Fields.Reworded old new S f g)
    (hread : ∀ k x y, Datum.Reworded old new (S.below (.key (.text k))) x y → ∀ place,
      SameOutcome (FormsReworded old new (S.below (.key (.text k))) write) (read place x)
        (read place y))
    (place : Text) :
    SameOutcome (MapReworded old new S write) (readMembers read place f)
      (readMembers read place g) :=
  sameOutcome_readMembers h hread place

end Forms

end ScriptDefs
