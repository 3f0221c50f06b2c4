import ScriptDefs.Proofs.Catalogue.Accepted
import ScriptDefs.Proofs.Data.JsonForm
import ScriptDefs.Proofs.Types.Accepted
import ScriptDefs.Proofs.Types.RoundTrip

/-!
# Reading back catalogues

A catalogue can be read back from its plain form exactly when its declared types are names or null,
its costs numbers or null and the values of its constants numbers, texts or null. Catalogues and
documents that were read are of this kind, so reading settles the plain form: writing what was read
and reading it again changes nothing.
-/

namespace ScriptDefs

namespace Catalogue

variable {given : Datum → Prop}

/-! ## Definitions -/

/-- A readable argument can be read back. -/
theorem Argument.read_toDatum (kept : Datum.Kept given) (a : Argument) (place : Text)
    (h : a.Readable given) : Argument.read place a.toDatum = .ok a := by
  obtain ⟨type, htype⟩ := Datum.isNameOrNull_iff.mp h.type
  have hfield (place : Text) {fields : Fields} (hget : fields.get? "type" = some a.type) :
      fields.optionalText place "type" = .ok type :=
    Fields.optionalText_of_get? place (hget.trans (congrArg some htype))
  rw [Argument.toDatum, Datum.object, Argument.read, Datum.requireMap, ok_bind,
    Fields.expectDef_of_get? place (by simp), ok_bind,
    Fields.requireText_of_get? (t := a.name) place (by simp), ok_bind, hfield place (by simp),
    ok_bind, Fields.orEmptyText_of_get? (d := a.desc) (by simp), kept a.desc h.desc, ← htype]
  rfl

/-- Readable arguments can be read back from the field that they are written to. -/
theorem Argument.readAll_of_get? (kept : Datum.Kept given) {args : List Argument}
    (h : ∀ a ∈ args, a.Readable given) {fields : Fields}
    (hget : fields.get? "args" = some (.list (args.map Argument.toDatum))) (place : Text) :
    Argument.readAll place fields = .ok args := by
  rw [Argument.readAll, Fields.optionalList_of_get? _ hget, ok_bind, Argument.readItems_eq]
  exact readEach_map (fun a ha place ↦ Argument.read_toDatum kept a place (h a ha)) _ 0

/-- The entries of the plain form of a function. -/
def Function.fields (f : Function) : Fields :=
  [(.text "def", .text "func"), (.text "name", .text f.name),
    (.text "args", .list (f.args.map Argument.toDatum)), (.text "result", f.result),
    (.text "desc", f.desc), (.text "energy", f.energy), (.text "sleep", f.sleep),
    (.text "must_use", .bool f.mustUse), (.text "link", .ofOption f.link),
    (.text "private", .bool f.restricted)] ++
  (flagFields [("deprecated", f.deprecated), ("god-mode", f.godMode),
    ("linden-experience", f.lindenExperience)]).map fun e ↦ (.text e.1, e.2)

theorem Function.toDatum_eq (f : Function) : f.toDatum = .map f.fields := rfl

theorem Function.Readable.args_readable {f : Function} (h : f.Readable given) :
    ∀ a ∈ f.args, a.Readable given := fun a ha ↦ ⟨h.args a ha, h.argumentTypes a ha⟩

/-- A readable function can be read back. -/
theorem Function.read_toDatum (kept : Datum.Kept given) (f : Function) (place : Text)
    (h : f.Readable given) : Function.read place f.toDatum = .ok f := by
  obtain ⟨result, hresult⟩ := Datum.isNameOrNull_iff.mp h.result
  have hdef : f.fields.get? "def" = some (.text "func") := by simp [fields]
  have hname : f.fields.get? "name" = some (.text f.name) := by simp [fields]
  have hargs : f.fields.get? "args" = some (.list (f.args.map Argument.toDatum)) := by
    simp [fields]
  have htype : f.fields.get? "result" = some (.ofOption result) := by simp [fields, hresult]
  have hdesc : f.fields.get? "desc" = some f.desc := by simp [fields]
  have henergy : f.fields.get? "energy" = some f.energy := by simp [fields]
  have hsleep : f.fields.get? "sleep" = some f.sleep := by simp [fields]
  have hmust : f.fields.get? "must_use" = some (.bool f.mustUse) := by simp [fields]
  have hlink : f.fields.get? "link" = some (.ofOption f.link) := by simp [fields]
  have hprivate : f.fields.get? "private" = some (.bool f.restricted) := by simp [fields]
  -- the other flags are left out when they are not set
  have hdeprecated :
      f.fields.get? "deprecated" = if f.deprecated then some (.bool true) else none := by
    simp [fields]
  have hgod : f.fields.get? "god-mode" = if f.godMode then some (.bool true) else none := by
    simp [fields]
  have hlinden : f.fields.get? "linden-experience" =
      if f.lindenExperience then some (.bool true) else none := by
    simp [fields]
  simp only [toDatum_eq, Function.read, Datum.requireMap, ok_bind, pure_eq_ok,
    Fields.expectDef_of_get? place hdef, Fields.requireText_of_get? place hname,
    Argument.readAll_of_get? kept h.args_readable hargs, Fields.optionalText_of_get? place htype,
    Fields.orEmptyText_of_get? hdesc, kept f.desc h.desc,
    Fields.numberOrNull_of_get? place henergy h.energy,
    Fields.numberOrNull_of_get? place hsleep h.sleep, Fields.flag_of_get? place (.inl hmust),
    Fields.optionalText_of_get? place hlink, Fields.flag_of_get? place (.inl hprivate),
    Fields.flag_of_get? place (.inr hdeprecated), Fields.flag_of_get? place (.inr hgod),
    Fields.flag_of_get? place (.inr hlinden), ← hresult]

/-- The entries of the plain form of a constant. -/
def Constant.fields (c : Constant) : Fields :=
  [(.text "def", .text "const"), (.text "name", .text c.name), (.text "type", c.type),
    (.text "valueRaw", .ofOption c.valueRaw), (.text "value", c.value), (.text "desc", c.desc),
    (.text "link", .text c.link)] ++
  (flagFields [("deprecated", c.deprecated), ("private", c.restricted)]).map
    fun e ↦ (.text e.1, e.2)

theorem Constant.toDatum_eq (c : Constant) : c.toDatum = .map c.fields := rfl

/-- A readable constant can be read back. -/
theorem Constant.read_toDatum (kept : Datum.Kept given) (c : Constant) (place : Text)
    (h : c.Readable given) : Constant.read place c.toDatum = .ok c := by
  obtain ⟨type, heq⟩ := Datum.isNameOrNull_iff.mp h.type
  have hdef : c.fields.get? "def" = some (.text "const") := by simp [fields]
  have hname : c.fields.get? "name" = some (.text c.name) := by simp [fields]
  have htype : c.fields.get? "type" = some (.ofOption type) := by simp [fields, heq]
  have hraw : c.fields.get? "valueRaw" = some (.ofOption c.valueRaw) := by simp [fields]
  have hvalue : c.fields.get? "value" = some c.value := by simp [fields]
  have hdesc : c.fields.get? "desc" = some c.desc := by simp [fields]
  have hlink : c.fields.get? "link" = some (.ofOption (some c.link)) := by
    simp [fields, Datum.ofOption]
  have hdeprecated :
      c.fields.get? "deprecated" = if c.deprecated then some (.bool true) else none := by
    simp [fields]
  have hprivate : c.fields.get? "private" = if c.restricted then some (.bool true) else none := by
    simp [fields]
  simp only [toDatum_eq, Constant.read, Datum.requireMap, ok_bind, pure_eq_ok,
    Fields.expectDef_of_get? place hdef, Fields.requireText_of_get? place hname,
    Fields.optionalText_of_get? place htype, Fields.optionalText_of_get? place hraw,
    Fields.constantValue_of_get? place hvalue h.value, Fields.orEmptyText_of_get? hdesc,
    kept c.desc h.desc, Fields.optionalText_of_get? place hlink, Option.getD_some,
    Fields.flag_of_get? place (.inr hdeprecated), Fields.flag_of_get? place (.inr hprivate),
    ← heq]

/-- The entries of the plain form of an event. -/
def Event.fields (e : Event) : Fields :=
  [(.text "def", .text "event"), (.text "name", .text e.name),
    (.text "args", .list (e.args.map Argument.toDatum)), (.text "desc", e.desc),
    (.text "link", .text e.link)] ++
  (flagFields [("deprecated", e.deprecated)]).map fun f ↦ (.text f.1, f.2)

theorem Event.toDatum_eq (e : Event) : e.toDatum = .map e.fields := rfl

theorem Event.Readable.args_readable {e : Event} (h : e.Readable given) :
    ∀ a ∈ e.args, a.Readable given := fun a ha ↦ ⟨h.args a ha, h.argumentTypes a ha⟩

/-- A readable event can be read back. -/
theorem Event.read_toDatum (kept : Datum.Kept given) (e : Event) (place : Text)
    (h : e.Readable given) : Event.read place e.toDatum = .ok e := by
  have hdef : e.fields.get? "def" = some (.text "event") := by simp [fields]
  have hname : e.fields.get? "name" = some (.text e.name) := by simp [fields]
  have hargs : e.fields.get? "args" = some (.list (e.args.map Argument.toDatum)) := by
    simp [fields]
  have hdesc : e.fields.get? "desc" = some e.desc := by simp [fields]
  have hlink : e.fields.get? "link" = some (.ofOption (some e.link)) := by
    simp [fields, Datum.ofOption]
  have hdeprecated :
      e.fields.get? "deprecated" = if e.deprecated then some (.bool true) else none := by
    simp [fields]
  simp only [toDatum_eq, Event.read, Datum.requireMap, ok_bind, pure_eq_ok,
    Fields.expectDef_of_get? place hdef, Fields.requireText_of_get? place hname,
    Argument.readAll_of_get? kept h.args_readable hargs, Fields.orEmptyText_of_get? hdesc,
    kept e.desc h.desc, Fields.optionalText_of_get? place hlink, Option.getD_some,
    Fields.flag_of_get? place (.inr hdeprecated)]

/-- A type with a description that is kept can be read back. -/
theorem TypeNote.read_toDatum (kept : Datum.Kept given) (t : TypeNote) (place : Text)
    (h : given t.desc) : TypeNote.read place t.toDatum = .ok t := by
  rw [TypeNote.toDatum, Datum.object, TypeNote.read, Datum.requireMap, ok_bind,
    Fields.requireText_of_get? (t := t.name) place (by simp), ok_bind,
    Fields.orEmptyText_of_get? (d := t.desc) (by simp), kept t.desc h]
  rfl

/-! ## Catalogues -/

/-- A section can be read back when its definitions can. -/
theorem readSection_of_get? {α : Type} {read : Text → Datum → Except ShapeError α}
    {w : α → Datum} {m : Assoc Text α}
    (h : ∀ e ∈ m, ∀ place, read place (w e.2) = .ok e.2) {fields : Fields} {name : Text}
    (hget : fields.get? name = some (.object (m.mapValues w))) :
    readSection read name fields = .ok m := by
  rw [readSection, Fields.optionalMap_of_get? name hget, ok_bind]
  exact readMembers_mapValues h name

/-- A readable catalogue can be read back. -/
theorem read_toDatum (kept : Datum.Kept given) (c : Catalogue) (h : c.Readable given) :
    Catalogue.read c.toDatum = .ok c := by
  rw [toDatum, Datum.object, Catalogue.read, Datum.requireMap, ok_bind,
    readSection_of_get? (m := c.functions) (w := Function.toDatum)
      (fun e he place ↦ Function.read_toDatum kept e.2 place (h.functions e he)) (by simp),
    ok_bind, readSection_of_get? (m := c.constants) (w := Constant.toDatum)
      (fun e he place ↦ Constant.read_toDatum kept e.2 place (h.constants e he)) (by simp),
    ok_bind, readSection_of_get? (m := c.events) (w := Event.toDatum)
      (fun e he place ↦ Event.read_toDatum kept e.2 place (h.events e he)) (by simp),
    ok_bind, readSection_of_get? (m := c.types) (w := TypeNote.toDatum)
      (fun e he place ↦ TypeNote.read_toDatum kept e.2 place (h.types e he)) (by simp)]
  rfl

/-- What can be read back is just what could have been read. -/
theorem read_toDatum_iff (c : Catalogue) :
    Catalogue.read c.toDatum = .ok c ↔ c.Readable Datum.IsGiven :=
  ⟨fun h ↦ (read_reads Datum.inherited_true trivial).of_ok h,
    read_toDatum (fun _ h ↦ h) c⟩

/-- Every catalogue with values of the declared types in its fields can be read back from its plain
form: all definitions with all their fields, and the keys of the four maps in their order. -/
theorem read_back_of_readable (c : Catalogue) (h : c.Readable Datum.IsText) :
    Catalogue.read c.toDatum = .ok c := read_toDatum Datum.kept_isText c h

namespace Mixed

/-- A catalogue with null and empty texts next to each other, all kinds of values and costs, and every
flag both raised and not. -/
def catalogue : Catalogue where
  functions :=
    [("llSay",
      { name := "llSay"
        args := [⟨"channel", .text "integer", .text "a \"channel\""⟩, ⟨[], .null, .text []⟩]
        result := .null, desc := .text [], energy := .float .zero, sleep := .null
        mustUse := false, link := some [], godMode := true, lindenExperience := true }),
      ([],
      { name := "llAbs", args := [], result := .text [], desc := .text "\n", energy := .null
        sleep := .int (-1), mustUse := true, link := none, restricted := true
        deprecated := true })]
  constants :=
    [("ZERO",
      { name := "ZERO", type := .text "integer", valueRaw := some "0", value := .int 0
        desc := .text [], link := [], restricted := true }),
      ("EOF",
      { name := "EOF", type := .null, valueRaw := none, value := .text "null", desc := .text []
        link := "l", deprecated := true })]
  events :=
    [("touch",
      { name := "touch", args := [⟨"n", .text "integer", .text []⟩], desc := .text [], link := []
        deprecated := true })]
  types := [("key", ⟨"key", .text []⟩), ("list", ⟨[], .text "a list"⟩)]

theorem readable : catalogue.Readable Datum.IsText where
  functions := by
    simp only [catalogue, List.forall_mem_cons]
    refine ⟨⟨⟨trivial, ?_, trivial, trivial⟩, ?_, trivial⟩, ⟨⟨trivial, ?_, trivial, trivial⟩, ?_, trivial⟩,
      List.forall_mem_nil _⟩ <;> simp [Datum.IsText, Datum.IsNameOrNull]
  constants := by
    simp only [catalogue, List.forall_mem_cons]
    exact ⟨⟨⟨trivial, trivial⟩, trivial⟩, ⟨⟨trivial, trivial⟩, trivial⟩, List.forall_mem_nil _⟩
  events := by
    simp only [catalogue, List.forall_mem_cons]
    refine ⟨⟨⟨trivial, ?_⟩, ?_⟩, List.forall_mem_nil _⟩ <;> simp [Datum.IsText, Datum.IsNameOrNull]
  types := by simp [catalogue, Datum.IsText]

end Mixed

theorem read_back_mixed : Mixed.catalogue.Readable Datum.IsText ∧
    Catalogue.read Mixed.catalogue.toDatum = .ok Mixed.catalogue :=
  ⟨Mixed.readable, read_back_of_readable _ Mixed.readable⟩

/-! ## Plain forms that can be read -/

section Readings

variable {place : Text}

theorem Argument.readable_of_read {a a' : Argument} (hdesc : given a.desc)
    (h : Argument.read place a.toDatum = .ok a') : a.Readable given := by
  obtain ⟨_, hfields, h⟩ := bind_eq_ok.mp h
  obtain rfl := Except.ok.inj hfields
  obtain ⟨_, _, h⟩ := bind_eq_ok.mp h
  obtain ⟨_, _, h⟩ := bind_eq_ok.mp h
  obtain ⟨_, htype, _⟩ := bind_eq_ok.mp h
  exact ⟨hdesc, Fields.isNameOrNull_of_optionalText _ _ _ (by simp) htype⟩

theorem Argument.readable_of_readAll {args args' : List Argument}
    (hdesc : ∀ a ∈ args, given a.desc) {fields : Fields}
    (hget : fields.get? "args" = some (.list (args.map Argument.toDatum)))
    (h : Argument.readAll place fields = .ok args') : ∀ a ∈ args, a.Readable given := by
  rw [Argument.readAll, Fields.optionalList_of_get? _ hget, ok_bind, Argument.readItems_eq] at h
  have hread := forall_of_readEach_map (Q := fun a ↦ given a.desc → a.Readable given)
    (fun a place a' h hdesc ↦ Argument.readable_of_read hdesc h) h
  exact fun a ha ↦ hread a ha (hdesc a ha)

theorem Function.readable_of_read {f f' : Function} (hdesc : given f.desc)
    (hargs : ∀ a ∈ f.args, given a.desc) (h : Function.read place f.toDatum = .ok f') :
    f.Readable given := by
  rw [toDatum_eq] at h
  obtain ⟨_, hfields, h⟩ := bind_eq_ok.mp h
  obtain rfl := Except.ok.inj hfields
  obtain ⟨_, _, h⟩ := bind_eq_ok.mp h
  obtain ⟨_, _, h⟩ := bind_eq_ok.mp h
  obtain ⟨_, hreadArgs, h⟩ := bind_eq_ok.mp h
  obtain ⟨_, hresult, h⟩ := bind_eq_ok.mp h
  obtain ⟨_, henergy, h⟩ := bind_eq_ok.mp h
  obtain ⟨_, hsleep, _⟩ := bind_eq_ok.mp h
  exact {
    desc := hdesc
    args := hargs
    energy := Fields.isCost_of_numberOrNull _ _ _ (by simp [fields]) henergy
    sleep := Fields.isCost_of_numberOrNull _ _ _ (by simp [fields]) hsleep
    argumentTypes := fun a ha ↦
      (Argument.readable_of_readAll hargs (by simp [fields]) hreadArgs a ha).type
    result := Fields.isNameOrNull_of_optionalText _ _ _ (by simp [fields]) hresult }

theorem Constant.readable_of_read {c c' : Constant} (hdesc : given c.desc)
    (h : Constant.read place c.toDatum = .ok c') : c.Readable given := by
  rw [toDatum_eq] at h
  obtain ⟨_, hfields, h⟩ := bind_eq_ok.mp h
  obtain rfl := Except.ok.inj hfields
  obtain ⟨_, _, h⟩ := bind_eq_ok.mp h
  obtain ⟨_, _, h⟩ := bind_eq_ok.mp h
  obtain ⟨_, htype, h⟩ := bind_eq_ok.mp h
  obtain ⟨_, _, h⟩ := bind_eq_ok.mp h
  obtain ⟨_, hvalue, _⟩ := bind_eq_ok.mp h
  exact {
    desc := hdesc
    value := Fields.isConstantValue_of_constantValue _ _ (by simp [fields]) hvalue
    type := Fields.isNameOrNull_of_optionalText _ _ _ (by simp [fields]) htype }

theorem Event.readable_of_read {e e' : Event} (hdesc : given e.desc)
    (hargs : ∀ a ∈ e.args, given a.desc) (h : Event.read place e.toDatum = .ok e') :
    e.Readable given := by
  rw [toDatum_eq] at h
  obtain ⟨_, hfields, h⟩ := bind_eq_ok.mp h
  obtain rfl := Except.ok.inj hfields
  obtain ⟨_, _, h⟩ := bind_eq_ok.mp h
  obtain ⟨_, _, h⟩ := bind_eq_ok.mp h
  obtain ⟨_, hreadArgs, _⟩ := bind_eq_ok.mp h
  exact {
    desc := hdesc
    args := hargs
    argumentTypes := fun a ha ↦
      (Argument.readable_of_readAll hargs (by simp [fields]) hreadArgs a ha).type }

theorem forall_of_readSection {α : Type} {read : Text → Datum → Except ShapeError α}
    {w : α → Datum} {Q : α → Prop} (h : ∀ a place b, read place (w a) = .ok b → Q a)
    {m m' : Assoc Text α} {fields : Fields} {name : Text}
    (hget : fields.get? name = some (.object (m.mapValues w)))
    (hread : readSection read name fields = .ok m') : ∀ e ∈ m, Q e.2 := by
  rw [readSection, Fields.optionalMap_of_get? name hget, ok_bind] at hread
  exact forall_of_readMembers_mapValues h hread

end Readings

/-- A catalogue is readable, descriptions apart, if anything is read from its plain form at all. -/
theorem readable_of_read {c c' : Catalogue} (hc : c.Described given)
    (h : Catalogue.read c.toDatum = .ok c') : c.Readable given := by
  obtain ⟨_, hfields, h⟩ := bind_eq_ok.mp h
  obtain rfl := Except.ok.inj hfields
  obtain ⟨_, hfunctions, h⟩ := bind_eq_ok.mp h
  obtain ⟨_, hconstants, h⟩ := bind_eq_ok.mp h
  obtain ⟨_, hevents, _⟩ := bind_eq_ok.mp h
  have hfs := forall_of_readSection (m := c.functions) (w := Function.toDatum)
    (Q := fun f ↦ given f.desc → (∀ a ∈ f.args, given a.desc) → f.Readable given)
    (fun f _ _ h hdesc hargs ↦ Function.readable_of_read hdesc hargs h) (by simp) hfunctions
  have hcs := forall_of_readSection (m := c.constants) (w := Constant.toDatum)
    (Q := fun k ↦ given k.desc → k.Readable given)
    (fun k _ _ h hdesc ↦ Constant.readable_of_read hdesc h) (by simp) hconstants
  have hes := forall_of_readSection (m := c.events) (w := Event.toDatum)
    (Q := fun e ↦ given e.desc → (∀ a ∈ e.args, given a.desc) → e.Readable given)
    (fun e _ _ h hdesc hargs ↦ Event.readable_of_read hdesc hargs h) (by simp) hevents
  exact {
    functions := fun e he ↦ hfs e he (hc.functions e he).1 (hc.functions e he).2
    constants := fun e he ↦ hcs e he (hc.constants e he)
    events := fun e he ↦ hes e he (hc.events e he).1 (hc.events e he).2
    types := hc.types }

/-! ## Plain forms of readable catalogues -/

section Plain

open Datum (inherited_isPlain)

theorem Argument.Readable.isPlain {a : Argument} (h : a.Readable Datum.IsText) :
    a.toDatum.IsPlain := by
  simp [Argument.toDatum, inherited_isPlain.object, h.type.isPlain, h.desc.isPlain]

theorem isPlain_arguments {args : List Argument} (h : ∀ a ∈ args, a.Readable Datum.IsText) :
    (Datum.list (args.map Argument.toDatum)).IsPlain :=
  inherited_isPlain.list_map.mpr fun a ha ↦ (h a ha).isPlain

theorem isPlain_definition {fields : List (Text × Datum)} {flags : List (Text × Bool)}
    (h : ∀ f ∈ fields, f.2.IsPlain) : (Datum.object (fields ++ flagFields flags)).IsPlain := by
  refine inherited_isPlain.object.mpr (List.forall_mem_append.mpr ⟨fun f hf ↦ ?_, ?_⟩)
  · exact ⟨Datum.isPlain_scalar _, h f hf⟩
  · exact inherited_isPlain.flagFields fun f _ ↦ Datum.isPlain_scalar _

theorem Function.Readable.isPlain {f : Function} (h : f.Readable Datum.IsText) :
    f.toDatum.IsPlain := by
  refine isPlain_definition ?_
  simp [isPlain_arguments h.args_readable, h.result.isPlain, h.desc.isPlain, h.energy.isPlain,
    h.sleep.isPlain, (Datum.isNameOrNull_ofOption f.link).isPlain]

theorem Constant.Readable.isPlain {c : Constant} (h : c.Readable Datum.IsText) :
    c.toDatum.IsPlain := by
  refine isPlain_definition ?_
  simp [h.type.isPlain, h.value.isPlain, h.desc.isPlain,
    (Datum.isNameOrNull_ofOption c.valueRaw).isPlain]

theorem Event.Readable.isPlain {e : Event} (h : e.Readable Datum.IsText) :
    e.toDatum.IsPlain := by
  refine isPlain_definition ?_
  simp [isPlain_arguments h.args_readable, h.desc.isPlain]

/-- In plain form a readable catalogue holds nothing but lists and maps of scalars. -/
theorem Readable.isPlain {c : Catalogue} (h : c.Readable Datum.IsText) : c.toDatum.IsPlain := by
  have hsection {α : Type} {write : α → Datum} {m : Assoc Text α}
      (hm : ∀ e ∈ m, (write e.2).IsPlain) : (Datum.object (m.mapValues write)).IsPlain :=
    inherited_isPlain.object_mapValues.mpr fun e he ↦ ⟨Datum.isPlain_scalar _, hm e he⟩
  have htypes : ∀ e ∈ c.types, e.2.toDatum.IsPlain := fun e he ↦ by
    simp [TypeNote.toDatum, inherited_isPlain.object, (h.types e he).isPlain]
  rw [toDatum, inherited_isPlain.object]
  simp only [List.forall_mem_cons, Datum.isPlain_scalar, true_and]
  exact ⟨hsection fun e he ↦ (h.functions e he).isPlain,
    hsection fun e he ↦ (h.constants e he).isPlain, hsection fun e he ↦ (h.events e he).isPlain,
    hsection htypes, List.forall_mem_nil _⟩

end Plain

end Catalogue

/-! ## Settled plain forms -/

/-- Reading a value ends with a well-formed result, which is read again from its own plain form, or
with an error of shape. The error has a wording unless it shows an integer with too many digits; then the
value holds such an integer. In plain form the result does not change any more. -/
structure Datum.Settles {α : Type} (wellFormed : α → Prop) (read : Datum → Except ShapeError α)
    (write : α → Datum) (x : Datum) : Prop where
  outcome : Outcome (fun a ↦ wellFormed a ∧ read (write a) = .ok a)
    (fun e ↦ SucceedsIff (e.Shows fun d ↦ d.isWritable = true) .writing (fun _ ↦ True) e.message ∧
      (x.isWritable = true → ∃ t, e.message = .ok t)) (read x)
  idempotent : ∀ y, (read x).map write = .ok y → (read y).map write = .ok y

/-- A reader settles plain forms if its results are well-formed, what is well-formed can be read
back, and its errors show only data that it has found. -/
theorem Datum.Settles.of_reads {α : Type} {wellFormed : α → Prop}
    {read : Datum → Except ShapeError α} {write : α → Datum} {x : Datum}
    (hread : ∀ {R : Datum → Prop}, Inherited R → R x → ReadsAs R wellFormed (read x))
    (hwrite : ∀ a, wellFormed a → read (write a) = .ok a) : Settles wellFormed read write x where
  outcome := by
    cases hx : read x with
    | ok a =>
      have ha := (hread inherited_true trivial).of_ok hx
      exact .ok ⟨ha, hwrite a ha⟩
    | error e =>
      refine .error ⟨e.message_outcome, fun hwritable ↦ ?_⟩
      have hshows := (hread inherited_isWritable hwritable).of_error hx
      exact (e.message_outcome.hasResult_iff.mpr hshows).exists_ok
  idempotent y hy := by
    cases hx : read x with
    | error e =>
      rw [hx] at hy
      cases hy
    | ok a =>
      rw [hx] at hy
      cases hy
      rw [hwrite a ((hread inherited_true trivial).of_ok hx)]
      rfl

/-- Every value is read as a document or as a catalogue, or refused with an error of shape, which has a
wording unless it would have to show an integer with too many digits. All functions of a document have a
signature then, at any depth, all arguments, results and named types have a type; documents and catalogues
that were read are read again from their plain forms as they are, so that reading and writing once more
changes nothing. -/
theorem Datum.reading_settles (x : Datum) :
    x.Settles (Document.WellFormed IsGiven) Document.read Document.toDatum ∧
      x.Settles (Catalogue.Readable IsGiven) Catalogue.read Catalogue.toDatum := by
  have kept : Kept IsGiven := fun _ h ↦ h
  constructor
  · refine .of_reads (fun hR hx ↦ (Document.read_reads hR hx).mono fun _ h ↦ h.1) fun d hd ↦ ?_
    exact Document.read_toDatum_of_wellFormed kept d hd
  · refine .of_reads (fun hR hx ↦ Catalogue.read_reads hR hx) fun c hc ↦ ?_
    exact Catalogue.read_toDatum kept c hc

/-- Not every JSON value that is no document is refused with an error that has a wording: the mark of a
table may be an integer with too many digits. -/
theorem Document.read_refuses_integer :
    ¬∀ x : Datum, x.IsJsonValue →
      Outcome (fun _ ↦ True) (fun e ↦ ∃ t, e.message = .ok t) (Document.read x) := by
  intro h
  let mark : Datum := .scalar (.int DigitLimit.overlong)
  let x : Datum := .object [("global", .object [("def", mark)])]
  let e : ShapeError := ⟨"global", .wrongDef "table" mark⟩
  have hx : x.IsJsonValue := by
    simp [x, mark, Datum.inherited_isJsonValue.object, Datum.isJsonValue_overlong,
      Datum.isJsonValue_text]
  have hread : Document.read x = .error e := rfl
  obtain ⟨t, ht⟩ := (h x hx).of_error hread
  have hwording := e.message_outcome.eq_error Scalar.overlong_not_isWritable
  rw [hwording] at ht
  cases ht

end ScriptDefs
