import ScriptDefs.Catalogue.Plain
import ScriptDefs.Proofs.Data.Inherited

/-!
# Accepted catalogues

What reading makes sure of in a catalogue: declared types are names or null, costs are numbers or
null, the values of constants are numbers, texts or null, and descriptions are data that is taken
over as it is.
-/

namespace ScriptDefs

namespace Catalogue

variable (given : Datum → Prop)

/-- The descriptions of a function and its arguments are as they are asked for, its costs are
numbers or null. -/
structure Function.WellFormed (f : Function) : Prop where
  desc : given f.desc
  args : ∀ a ∈ f.args, given a.desc
  energy : f.energy.IsCost
  sleep : f.sleep.IsCost

/-- The value of a constant is a number, a text or null. -/
structure Constant.WellFormed (c : Constant) : Prop where
  desc : given c.desc
  value : c.value.IsConstantValue

/-- The descriptions of an event and its arguments are as they are asked for. -/
structure Event.WellFormed (e : Event) : Prop where
  desc : given e.desc
  args : ∀ a ∈ e.args, given a.desc

/-- All definitions of a catalogue are well-formed. -/
structure WellFormed (c : Catalogue) : Prop where
  functions : ∀ e ∈ c.functions, e.2.WellFormed given
  constants : ∀ e ∈ c.constants, e.2.WellFormed given
  events : ∀ e ∈ c.events, e.2.WellFormed given

/-! ## Declared types -/

/-- An argument whose declared type is a name or null. -/
structure Argument.Readable (a : Argument) : Prop where
  desc : given a.desc
  type : a.type.IsNameOrNull

/-- A well-formed function whose declared types are names or null. -/
structure Function.Readable (f : Function) : Prop extends f.WellFormed given where
  argumentTypes : ∀ a ∈ f.args, a.type.IsNameOrNull
  result : f.result.IsNameOrNull

/-- A well-formed constant whose declared type is a name or null. -/
structure Constant.Readable (c : Constant) : Prop extends c.WellFormed given where
  type : c.type.IsNameOrNull

/-- A well-formed event whose declared types are names or null. -/
structure Event.Readable (e : Event) : Prop extends e.WellFormed given where
  argumentTypes : ∀ a ∈ e.args, a.type.IsNameOrNull

/-- All definitions of a catalogue are such as can be read. -/
structure Readable (c : Catalogue) : Prop where
  functions : ∀ e ∈ c.functions, e.2.Readable given
  constants : ∀ e ∈ c.constants, e.2.Readable given
  events : ∀ e ∈ c.events, e.2.Readable given
  types : ∀ e ∈ c.types, given e.2.desc

variable {given} in
theorem Readable.wellFormed {c : Catalogue} (h : c.Readable given) : c.WellFormed given where
  functions e he := (h.functions e he).toWellFormed
  constants e he := (h.constants e he).toWellFormed
  events e he := (h.events e he).toWellFormed

/-! ## Parts of readability -/

/-- All declared types of a catalogue are names or null. -/
structure DeclaresNames (c : Catalogue) : Prop where
  arguments : ∀ e ∈ c.functions, ∀ a ∈ e.2.args, a.type.IsNameOrNull
  results : ∀ e ∈ c.functions, e.2.result.IsNameOrNull
  constants : ∀ e ∈ c.constants, e.2.type.IsNameOrNull
  eventArguments : ∀ e ∈ c.events, ∀ a ∈ e.2.args, a.type.IsNameOrNull

/-- All costs in a catalogue are numbers or null. -/
def HasCosts (c : Catalogue) : Prop := ∀ e ∈ c.functions, e.2.energy.IsCost ∧ e.2.sleep.IsCost

/-- The descriptions in a catalogue are as they are asked for. -/
structure Described (c : Catalogue) : Prop where
  functions : ∀ e ∈ c.functions, given e.2.desc ∧ ∀ a ∈ e.2.args, given a.desc
  constants : ∀ e ∈ c.constants, given e.2.desc
  events : ∀ e ∈ c.events, given e.2.desc ∧ ∀ a ∈ e.2.args, given a.desc
  types : ∀ e ∈ c.types, given e.2.desc

variable {given} in
theorem Readable.declaresNames {c : Catalogue} (h : c.Readable given) : c.DeclaresNames where
  arguments e he := (h.functions e he).argumentTypes
  results e he := (h.functions e he).result
  constants e he := (h.constants e he).type
  eventArguments e he := (h.events e he).argumentTypes

variable {given} in
theorem Readable.hasCosts {c : Catalogue} (h : c.Readable given) : c.HasCosts :=
  fun e he ↦ ⟨(h.functions e he).energy, (h.functions e he).sleep⟩

variable {given} in
theorem Described.readable {c : Catalogue} (h : c.Described given) (hnames : c.DeclaresNames)
    (hcosts : c.HasCosts) (hvalues : ∀ e ∈ c.constants, e.2.value.IsConstantValue) :
    c.Readable given where
  functions e he := {
    desc := (h.functions e he).1
    args := (h.functions e he).2
    energy := (hcosts e he).1
    sleep := (hcosts e he).2
    argumentTypes := hnames.arguments e he
    result := hnames.results e he }
  constants e he := {
    desc := h.constants e he
    value := hvalues e he
    type := hnames.constants e he }
  events e he := {
    desc := (h.events e he).1
    args := (h.events e he).2
    argumentTypes := hnames.eventArguments e he }
  types := h.types

/-! ## Reading -/

variable {R : Datum → Prop} (hR : Datum.Inherited R)

theorem Argument.readItems_eq (place : Text) (index : Nat) (items : List Datum) :
    Argument.readItems place index items = readEach Argument.read place index items := by
  induction items generalizing index with
  | nil => rfl
  | cons d items ih => rw [Argument.readItems, readEach, ih]

include hR

theorem Argument.read_reads {d : Datum} (h : R d) (place : Text) :
    ReadsAs R (Readable Datum.IsGiven) (Argument.read place d) := by
  rw [Argument.read]
  refine (d.requireMap_reads place).bind fun fields hfields ↦ ?_
  subst hfields
  refine (Fields.expectDef_reads fields place (hR.get h "def") "arg").bind fun _ _ ↦ ?_
  refine (Fields.requireText_reads fields place "name").bind fun _ _ ↦ ?_
  refine (Fields.optionalText_reads fields place "type").bind fun type _ ↦ ?_
  exact .ok ⟨Datum.isGiven_orEmptyText _, Datum.isNameOrNull_ofOption type⟩

theorem Argument.readAll_reads {fields : Fields} (h : R (.map fields)) (place : Text) :
    ReadsAs R (fun as ↦ ∀ a ∈ as, a.Readable Datum.IsGiven) (Argument.readAll place fields) := by
  rw [Argument.readAll]
  refine (Fields.optionalList_reads fields "args" hR h _).bind fun items hitems ↦ ?_
  rw [Argument.readItems_eq]
  have hitem : ∀ d ∈ items, ∀ place,
      ReadsAs R (Argument.Readable Datum.IsGiven) (Argument.read place d) :=
    fun d hd ↦ Argument.read_reads hR (hitems d hd)
  exact (readEach_reads hitem _ 0).mono fun _ ↦ And.right

theorem Function.read_reads {d : Datum} (h : R d) (place : Text) :
    ReadsAs R (Readable Datum.IsGiven) (Function.read place d) := by
  rw [Function.read]
  refine (d.requireMap_reads place).bind fun fields hfields ↦ ?_
  subst hfields
  refine (Fields.expectDef_reads fields place (hR.get h "def") "func").bind fun _ _ ↦ ?_
  refine (Fields.requireText_reads fields place "name").bind fun _ _ ↦ ?_
  refine (Argument.readAll_reads hR h place).bind fun args hargs ↦ ?_
  refine (Fields.optionalText_reads fields place "result").bind fun result _ ↦ ?_
  refine (Fields.numberOrNull_reads fields place "energy").bind fun energy henergy ↦ ?_
  refine (Fields.numberOrNull_reads fields place "sleep").bind fun sleep hsleep ↦ ?_
  refine (Fields.flag_reads fields place "must_use").bind fun _ _ ↦ ?_
  refine (Fields.optionalText_reads fields place "link").bind fun _ _ ↦ ?_
  refine (Fields.flag_reads fields place "private").bind fun _ _ ↦ ?_
  refine (Fields.flag_reads fields place "deprecated").bind fun _ _ ↦ ?_
  refine (Fields.flag_reads fields place "god-mode").bind fun _ _ ↦ ?_
  refine (Fields.flag_reads fields place "linden-experience").bind fun _ _ ↦ ?_
  exact .ok {
    desc := Datum.isGiven_orEmptyText _
    args := fun a ha ↦ (hargs a ha).desc
    energy := henergy.1
    sleep := hsleep.1
    argumentTypes := fun a ha ↦ (hargs a ha).type
    result := Datum.isNameOrNull_ofOption result }

theorem Constant.read_reads {d : Datum} (h : R d) (place : Text) :
    ReadsAs R (Readable Datum.IsGiven) (Constant.read place d) := by
  rw [Constant.read]
  refine (d.requireMap_reads place).bind fun fields hfields ↦ ?_
  subst hfields
  refine (Fields.expectDef_reads fields place (hR.get h "def") "const").bind fun _ _ ↦ ?_
  refine (Fields.requireText_reads fields place "name").bind fun _ _ ↦ ?_
  refine (Fields.optionalText_reads fields place "type").bind fun type _ ↦ ?_
  refine (Fields.optionalText_reads fields place "valueRaw").bind fun _ _ ↦ ?_
  refine (Fields.constantValue_reads fields place).bind fun value hvalue ↦ ?_
  refine (Fields.optionalText_reads fields place "link").bind fun _ _ ↦ ?_
  refine (Fields.flag_reads fields place "deprecated").bind fun _ _ ↦ ?_
  refine (Fields.flag_reads fields place "private").bind fun _ _ ↦ ?_
  exact .ok {
    desc := Datum.isGiven_orEmptyText _
    value := hvalue.1
    type := Datum.isNameOrNull_ofOption type }

theorem Event.read_reads {d : Datum} (h : R d) (place : Text) :
    ReadsAs R (Readable Datum.IsGiven) (Event.read place d) := by
  rw [Event.read]
  refine (d.requireMap_reads place).bind fun fields hfields ↦ ?_
  subst hfields
  refine (Fields.expectDef_reads fields place (hR.get h "def") "event").bind fun _ _ ↦ ?_
  refine (Fields.requireText_reads fields place "name").bind fun _ _ ↦ ?_
  refine (Argument.readAll_reads hR h place).bind fun args hargs ↦ ?_
  refine (Fields.optionalText_reads fields place "link").bind fun _ _ ↦ ?_
  refine (Fields.flag_reads fields place "deprecated").bind fun _ _ ↦ ?_
  exact .ok {
    desc := Datum.isGiven_orEmptyText _
    args := fun a ha ↦ (hargs a ha).desc
    argumentTypes := fun a ha ↦ (hargs a ha).type }

omit hR in
theorem TypeNote.read_reads (d : Datum) (place : Text) :
    ReadsAs R (fun t ↦ t.desc.IsGiven) (TypeNote.read place d) := by
  rw [TypeNote.read]
  refine (d.requireMap_reads place).bind fun fields hfields ↦ ?_
  subst hfields
  refine (Fields.requireText_reads fields place "name").bind fun _ _ ↦ ?_
  exact .ok (Datum.isGiven_orEmptyText _)

theorem readSection_reads {α : Type} {read : Text → Datum → Except ShapeError α} {Q : α → Prop}
    (hread : ∀ {d : Datum}, R d → ∀ place, ReadsAs R Q (read place d)) {fields : Fields}
    (h : R (.map fields)) (name : Text) :
    ReadsAs R (fun m ↦ ∀ e ∈ m, Q e.2) (readSection read name fields) := by
  rw [readSection]
  refine (Fields.optionalMap_reads fields name hR h name).bind fun entries hentries ↦ ?_
  have hmember : ∀ e ∈ entries, ∀ place, ReadsAs R Q (read place e.2) :=
    fun e he ↦ hread ((hR.map _).mp hentries e he).2
  exact (readMembers_reads hR hentries hmember name).mono fun m hm e he ↦ (hm e he).2

/-- What is read as a catalogue is a well-formed catalogue, in which all declared types are names or
null. -/
theorem read_reads {d : Datum} (h : R d) : ReadsAs R (Readable Datum.IsGiven) (read d) := by
  rw [read]
  refine (d.requireMap_reads "catalogue").bind fun fields hfields ↦ ?_
  subst hfields
  refine (readSection_reads hR (Function.read_reads hR) h _).bind fun functions hfunctions ↦ ?_
  refine (readSection_reads hR (Constant.read_reads hR) h _).bind fun constants hconstants ↦ ?_
  refine (readSection_reads hR (Event.read_reads hR) h _).bind fun events hevents ↦ ?_
  refine (readSection_reads hR (fun _ ↦ TypeNote.read_reads _) h _).bind fun types htypes ↦ ?_
  exact .ok ⟨hfunctions, hconstants, hevents, htypes⟩

end Catalogue

end ScriptDefs
