import ScriptDefs.Proofs.Remap.Widening
import ScriptDefs.Proofs.Types.Rewording

/-!
# Numbers as types of arguments

Where the plain form of a remapped catalogue depends on the mode: at the value of the only type of
an argument of a function or an event, if that is a number in strict mode. A widened definition has
numeric exactly there.
-/

namespace ScriptDefs

/-! ## Numbers as arguments -/

/-- The value of the only type of a variable, if that is a number. -/
def Variable.NumberSite (v : Variable) : Sites := fun a ↦
  v.types = [.simple .number] ∧ a = [.key (.text "type"), .item 0 1, .key (.text "value")]

/-- The value of the only type of one of the arguments, if that is a number. -/
def Variable.ArgumentSite (args : List Variable) : Sites := fun a ↦
  ∃ (i : Nat) (v : Variable) (b : Address), args[i]? = some v ∧ v.NumberSite b ∧
    a = .key (.text "args") :: .item i args.length :: b

/-- The value of the only type of an argument of a function, if that is a number. -/
def Function.NumberSite (f : Function) : Sites := fun a ↦
  ∃ (i : Nat) (g : Signature) (b : Address), f.signatures[i]? = some g ∧
    Variable.ArgumentSite g.args b ∧
    a = .key (.text "signatures") :: .item i f.signatures.length :: b

/-- The table of functions of a catalogue is not replaced by another definition of its name. -/
def Remap.KeepsFunctions (builtins : Builtins) (c : Catalogue) : Prop :=
  Remap.functionTable ∉ Assoc.keys c.constants ∧
    Remap.functionTable ∉ Assoc.keys builtins.functions ∧
    Remap.functionTable ∉ Assoc.keys builtins.tables

/-- The value of the only type of an argument of a surviving function or event of a catalogue, if
that is a number in strict mode. -/
inductive Remap.NumberSite (builtins : Builtins) (c : Catalogue) : Address → Prop where
  | function {functions : Assoc Text Function} {name : Text} {f : Function} {a : Address}
    (hfunctions : Remap.functions .strict c = .ok functions)
    (hkept : Remap.KeepsFunctions builtins c) (hf : (name, f) ∈ functions) (ha : f.NumberSite a) :
    Remap.NumberSite builtins c
      (.key (.text "global") :: .key (.text "props") :: .key (.text Remap.functionTable) ::
        .key (.text "props") :: .key (.text name) :: a)
  | event {events : Assoc Text Event} {name : Text} {e : Event} {a : Address}
    (hevents : Remap.events .strict c = .ok events) (he : (name, e) ∈ events)
    (ha : Variable.ArgumentSite e.args a) :
    Remap.NumberSite builtins c (.key (.text "events") :: .key (.text name) :: a)

/-- Two plain forms differ in that a number in the one is numeric in the other. -/
abbrev NumbersReworded {α : Type} (S : Sites) (write : α → Datum) (a b : α) : Prop :=
  FormsReworded SimpleType.number.name SimpleType.numeric.name S write a b

/-- There is a number at an address of the one plain form, and there is numeric in the other. -/
def NumberAt (a : Address) (x y : Datum) : Prop :=
  x.find? a = some (.text SimpleType.number.name) ∧ y.find? a = some (.text SimpleType.numeric.name)

variable {S : Sites}

/-! ## Definitions in both modes -/

theorem Variable.Widened.reworded {v v' : Variable} (h : Variable.Widened v v') (kind : Text) :
    NumbersReworded v.NumberSite (Variable.toDatum kind) v v' := by
  cases h with
  | other v h => exact .same _ _
  | number name desc variadic optional =>
    have htype : NumbersReworded
        ((Variable.mk name desc [.simple .number] variadic optional).NumberSite.below
          (.key (.text "type")) |>.below (.item 0 1))
        BaseType.toDatum (.simple .number) (.simple .numeric) :=
      .object (.cons (.same _ _) (.cons (.text _ ⟨rfl, rfl⟩) .nil))
    exact Variable.toDatum_reworded kind name desc variadic optional (.cons htype (.nil 1))

theorem Variable.arguments_reworded {args args' : List Variable}
    (h : ItemsRelated (fun _ ↦ Variable.Widened) 0 args args') :
    ListReworded SimpleType.number.name SimpleType.numeric.name
      ((Variable.ArgumentSite args).below (.key (.text "args"))) (Variable.toDatum "arg")
      args args' := by
  refine h.mono_getElem? fun i v v' hv hv' hwidened ↦ ?_
  exact (hwidened.reworded "arg").mono fun a ha ↦ ⟨i, v, a, hv, ha, rfl⟩

theorem Function.Widened.reworded {f f' : Function} (h : Function.Widened f f') :
    NumbersReworded f.NumberSite Function.toDatum f f' := by
  cases h with
  | @mk f signatures signatures' h =>
    refine Function.toDatum_reworded f (h.mono_getElem? fun i g g' hg hg' hwidened ↦ ?_)
    cases hwidened with
    | mk results hargs =>
      have hargs := Variable.arguments_reworded hargs
      exact (Signature.toDatum_reworded results hargs).mono fun a ha ↦ ⟨i, _, a, hg, ha, rfl⟩

theorem Event.Widened.reworded {e e' : Event} (h : Event.Widened e e') :
    NumbersReworded (Variable.ArgumentSite e.args) Event.toDatum e e' := by
  cases h with
  | mk e h =>
    exact Event.toDatum_reworded e (Variable.arguments_reworded h)

/-! ## Where the modes differ -/

/-- The same key leads on in both values. -/
theorem NumberAt.key {f g : Fields} {key : Text} {x y : Datum} {a : Address}
    (hf : f.get? key = some x) (hg : g.get? key = some y) (h : NumberAt a x y) :
    NumberAt (.key (.text key) :: a) (.map f) (.map g) := by
  have hfind : ∀ (f : Fields) (x : Datum), f.get? key = some x →
      Datum.find? (.key (.text key) :: a) (.map f) = x.find? a := fun f x hf ↦ by
    rw [Datum.find?]
    exact congrArg (·.bind (Datum.find? a)) hf
  exact ⟨(hfind f x hf).trans h.1, (hfind g y hg).trans h.2⟩

/-- An item of two lists leads on in both plain forms. -/
theorem NumberAt.item {α : Type} {R : Nat → α → α → Prop} {write : α → Datum} {xs ys : List α}
    (h : ItemsRelated R 0 xs ys) {i : Nat} {x : α} {a : Address} (hx : xs[i]? = some x)
    (hnumber : ∀ y, R i x y → NumberAt a (write x) (write y)) :
    NumberAt (.item i xs.length :: a) (.list (xs.map write)) (.list (ys.map write)) := by
  obtain ⟨y, hy, hxy⟩ := h.exists_of_getElem? hx
  have hx' : (xs.map write)[i]? = some (write x) := by rw [List.getElem?_map, hx, Option.map_some]
  have hy' : (ys.map write)[i]? = some (write y) := by rw [List.getElem?_map, hy, Option.map_some]
  have hn : (xs.map write).length = xs.length := List.length_map write
  have hm : (ys.map write).length = xs.length := by rw [List.length_map, h.length_eq]
  rw [NumberAt, Datum.find?, Datum.find?, if_pos hn, if_pos hm, hx', hy']
  exact hnumber y hxy

/-- An entry of two maps leads on in both plain forms. -/
theorem NumberAt.entry {α : Type} {R : Text → α → α → Prop} {write : α → Datum}
    {m n : Assoc Text α} (h : EntriesRelated R m n) (hm : m.keys.Nodup) {key : Text} {x : α}
    {a : Address} (hx : (key, x) ∈ m) (hnumber : ∀ y, R key x y → NumberAt a (write x) (write y)) :
    NumberAt (.key (.text key) :: a) (.object (m.mapValues write))
      (.object (n.mapValues write)) := by
  obtain ⟨y, hy, hxy⟩ := h.exists_of_mem hx
  have hn : n.keys.Nodup := by rwa [← h.keys_eq]
  exact .key (Fields.get?_of_mem hm hx) (Fields.get?_of_mem hn hy) (hnumber y hxy)

/-- The properties of two tables lead on. -/
theorem NumberAt.table {name : Text} {m n : Assoc Text Property} {a : Address}
    (h : NumberAt a (.object (m.mapValues Property.toDatum))
      (.object (n.mapValues Property.toDatum))) :
    NumberAt (.key (.text "props") :: a) (Table.mk name m).toDatum (Table.mk name n).toDatum := by
  rw [Table.toDatum, Table.toDatum, Table.map_toFields, Table.map_toFields]
  exact .key (by simp) (by simp) h

theorem Variable.Widened.numberAt {v v' : Variable} (h : Variable.Widened v v') {a : Address}
    (ha : v.NumberSite a) (kind : Text) : NumberAt a (v.toDatum kind) (v'.toDatum kind) := by
  obtain ⟨htypes, rfl⟩ := ha
  cases h with
  | other v h => exact absurd htypes h
  | number name desc variadic optional =>
    have htypes : ItemsRelated (fun _ t t' ↦ t = .simple .number ∧ t' = .simple .numeric) 0
        [BaseType.simple .number] [BaseType.simple .numeric] := .cons ⟨rfl, rfl⟩ (.nil 1)
    have hitem : NumberAt [.item 0 1, .key (.text "value")]
        (.list ([BaseType.simple .number].map BaseType.toDatum))
        (.list ([BaseType.simple .numeric].map BaseType.toDatum)) := by
      refine .item htypes rfl fun t' ht ↦ ?_
      rw [ht.2]
      exact .key (by simp) (by simp) ⟨rfl, rfl⟩
    rw [Variable.toDatum, Variable.toDatum, BaseType.toData_eq_map, BaseType.toData_eq_map,
      Datum.object, Datum.object]
    exact .key (by simp) (by simp) hitem

theorem Variable.arguments_numberAt {args args' : List Variable}
    (h : ItemsRelated (fun _ ↦ Variable.Widened) 0 args args') {a : Address}
    (ha : Variable.ArgumentSite args a) {f g : Fields}
    (hf : f.get? "args" = some (.list (args.map (Variable.toDatum "arg"))))
    (hg : g.get? "args" = some (.list (args'.map (Variable.toDatum "arg")))) :
    NumberAt a (.map f) (.map g) := by
  obtain ⟨i, v, b, hv, hb, rfl⟩ := ha
  exact .key hf hg (.item h hv fun v' hwidened ↦ hwidened.numberAt hb "arg")

theorem Function.Widened.numberAt {f f' : Function} (h : Function.Widened f f') {a : Address}
    (ha : f.NumberSite a) : NumberAt a f.toDatum f'.toDatum := by
  obtain ⟨i, g, b, hg, hb, rfl⟩ := ha
  cases h with
  | @mk f signatures signatures' h =>
    have hsignatures : ∀ f : Function, f.fields.get? "signatures" =
        some (.list (f.signatures.map Signature.toDatum)) := fun f ↦ by simp [Function.fields]
    rw [Function.toDatum_eq, Function.toDatum_eq]
    refine .key (hsignatures _) (hsignatures _) (.item h hg fun g' hwidened ↦ ?_)
    cases hwidened with
    | mk results hargs =>
      rw [Signature.toDatum, Signature.toDatum, Datum.object, Datum.object]
      simp only [Variable.toData_eq_map]
      exact Variable.arguments_numberAt hargs hb (by simp) (by simp)

theorem Event.Widened.numberAt {e e' : Event} (h : Event.Widened e e') {a : Address}
    (ha : Variable.ArgumentSite e.args a) : NumberAt a e.toDatum e'.toDatum := by
  cases h with
  | mk e h =>
    rw [Event.toDatum, Event.toDatum, Datum.object, Datum.object]
    simp only [Variable.toData_eq_map]
    exact Variable.arguments_numberAt h ha (by simp) (by simp)

/-! ## Sites of documents -/

theorem Variable.NumberSite.site {v : Variable} {a : Address} (h : v.NumberSite a) :
    Variable.Site a := by
  obtain ⟨_, rfl⟩ := h
  exact .type 0 1 .value

theorem Variable.ArgumentSite.site {args : List Variable} {a : Address}
    (h : Variable.ArgumentSite args a) : Signature.Site a := by
  obtain ⟨i, v, b, _, hb, rfl⟩ := h
  exact .args i args.length hb.site

theorem Function.NumberSite.site {f : Function} {a : Address} (h : f.NumberSite a) :
    Property.Site a := by
  obtain ⟨i, g, b, _, hb, rfl⟩ := h
  exact .signatures i f.signatures.length hb.site

/-- The modes differ only where a type of an argument has its value. -/
theorem Remap.NumberSite.site {builtins : Builtins} {c : Catalogue} {a : Address}
    (h : Remap.NumberSite builtins c a) : Document.Site a := by
  cases h with
  | function _ _ _ ha => exact .globalTable (.props _ (.props _ ha.site))
  | event _ _ ha => exact .events _ ha.site

end ScriptDefs
