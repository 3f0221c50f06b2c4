import ScriptDefs.Proofs.Keywords.Arguments
import ScriptDefs.Proofs.Markup.Part
import ScriptDefs.Proofs.Number.Decimal

/-!
# Entries in both forms of keyword documents

A function, a constant or an event can be written as a map of a marked-up document and as a mapping
of an indented document. Both are read as the same definition with the same diagnostics. Costs stand
in digits in marked-up documents, and are not read if they have more digits than are converted.
-/

namespace ScriptDefs

namespace Keywords

open Catalogue Markup

/-! ## Entries -/

/-- An argument. Its description is as it is after cleaning, for marked-up documents do
not clean it. -/
structure ArgumentEntry where
  name : Text
  type : Text
  tooltip : Text
  cleaned : tooltip.cleanDescription = tooltip

/-- A function. -/
structure FunctionEntry where
  args : List ArgumentEntry
  result : Text
  energy : Int
  sleep : Int
  tooltip : Text

/-- A constant. -/
structure ConstantEntry where
  type : Text
  value : Text
  tooltip : Text

/-- An event. -/
structure EventEntry where
  args : List ArgumentEntry
  tooltip : Text

/-! ## Marked-up documents -/

/-- A map with fields, each a key and the element after it. -/
def mapTree (fields : List (Text × Tree)) : Tree :=
  Part.node mapTag [] true (fields.flatMap fun f ↦ [leaf keyTag f.1, f.2])

/-- An array of elements. -/
def arrayTree (items : List Tree) : Tree := Part.node "array" [] true items

/-- A text in an element. -/
def textTree (t : Text) : Tree := leaf "string" t

/-- A number in an element, in decimal digits. -/
def numberTree (n : Int) : Tree := leaf "integer" (Text.ofInt n)

section Trees

@[simp] theorem tag_mapTree (fields : List (Text × Tree)) :
    (mapTree fields).tag = Text.ofString "map" := rfl

@[simp] theorem isMap_mapTree (fields : List (Text × Tree)) : (mapTree fields).isMap = true := rfl

@[simp] theorem tag_arrayTree (items : List Tree) :
    (arrayTree items).tag = Text.ofString "array" := rfl

@[simp] theorem children_arrayTree (items : List Tree) : (arrayTree items).children = items := rfl

@[simp] theorem tag_textTree (t : Text) : (textTree t).tag = Text.ofString "string" := rfl

@[simp] theorem text_textTree (t : Text) : (textTree t).text = t := rfl

@[simp] theorem tag_numberTree (n : Int) : (numberTree n).tag = Text.ofString "integer" := rfl

@[simp] theorem text_numberTree (n : Int) : (numberTree n).text = Text.ofInt n := rfl

theorem keyed_cons_of_ne {value : Tree} (h : value.tag ≠ keyTag) (rest : List Tree) :
    Tree.keyed (value :: rest) = Tree.keyed rest := by
  cases rest with
  | nil => rfl
  | cons next rest => rw [Tree.keyed, if_neg h]

/-- The keys of fields differ, and no field is itself a key. -/
structure WellKeyed (fields : List (Text × Tree)) : Prop where
  nodup : (Assoc.keys fields).Nodup
  not_key : ∀ f ∈ fields, f.2.tag ≠ keyTag

/-- Fields that are no keys are found under their keys. -/
theorem keyed_fields {fields : List (Text × Tree)} (h : ∀ f ∈ fields, f.2.tag ≠ keyTag) :
    Tree.keyed (fields.flatMap fun f ↦ [leaf keyTag f.1, f.2]) = fields := by
  induction fields with
  | nil => rfl
  | cons f fields ih =>
    obtain ⟨hf, hfields⟩ := List.forall_mem_cons.mp h
    have htag : (leaf keyTag f.1).tag = keyTag := rfl
    rw [List.flatMap_cons, List.cons_append, List.singleton_append, Tree.keyed, if_pos htag,
      keyed_cons_of_ne hf, ih hfields]
    rfl

namespace WellKeyed

variable {fields : List (Text × Tree)} (h : WellKeyed fields)
include h

theorem ofList_keyed : Assoc.ofList (Tree.keyed (mapTree fields).children) = fields := by
  have hkeyed : Tree.keyed (mapTree fields).children = fields := keyed_fields h.not_key
  rw [hkeyed, Assoc.ofList_of_nodup h.nodup]

theorem entries : (mapTree fields).entries = fields :=
  (Tree.entries_of_index rfl).trans h.ofList_keyed

theorem get? (key : Text) : (mapTree fields).get? key = fields.lookup key := by
  rw [Tree.get?_of_index rfl, h.ofList_keyed]

theorem textOr {key : Text} {value : Tree} (hvalue : fields.lookup key = some value)
    (default : Text) : Keywords.textOr (mapTree fields) key default = value.text := by
  rw [Keywords.textOr, Tree.getText?, h.get?, hvalue]
  rfl

theorem textOr_textTree {key t : Text} (hvalue : fields.lookup key = some (textTree t))
    (default : Text) : Keywords.textOr (mapTree fields) key default = t :=
  h.textOr hvalue default

end WellKeyed

/-- Maps under names that differ. -/
theorem wellKeyed_mapValues {α : Type} {m : Assoc Text α} (h : m.keys.Nodup)
    (fields : α → List (Text × Tree)) : WellKeyed (m.mapValues fun a ↦ mapTree (fields a)) where
  nodup := by simpa using h
  not_key := List.forall_mem_map.mpr fun _ _ ↦ by simp [keyTag]

end Trees

/-! ## Indented documents -/

theorem display?_text (t : Text) : (Datum.text t).display? = .ok t := rfl

theorem dataDescription_of_get {fields : Fields} {tooltip : Text}
    (h : fields.get "tooltip" = .text tooltip) :
    dataDescription fields = .ok (.text tooltip.cleanDescription) := by
  have htext : fieldText (.text tooltip) = .ok tooltip := rfl
  rw [dataDescription, h, htext]
  rfl

/-! ## Arguments -/

namespace ArgumentEntry

variable (a : ArgumentEntry)

/-- The argument in an entry. -/
def toArgument : Argument := { name := a.name, type := .text a.type, desc := .text a.tooltip }

/-- The fields of an argument in a marked-up document. -/
def treeFields : List (Text × Tree) := [("type", textTree a.type), ("tooltip", textTree a.tooltip)]

/-- An argument as a map with one key. -/
def toTree : Tree := mapTree [(a.name, mapTree a.treeFields)]

/-- The fields of an argument in an indented document. -/
def dataFields : Fields := [(.text "type", .text a.type), (.text "tooltip", .text a.tooltip)]

/-- An argument as a mapping with one key. -/
def toDatum : Datum := .map [(.text a.name, .map a.dataFields)]

theorem treeArgument_toTree (owner : Text) (i : Nat) :
    treeArgument owner i a.toTree = some (.inl a.toArgument) := by
  have hitem : WellKeyed [(a.name, mapTree a.treeFields)] := ⟨by simp, by simp [keyTag]⟩
  have hfields : WellKeyed a.treeFields := ⟨by simp [treeFields], by simp [treeFields, keyTag]⟩
  have htype (d : Text) : textOr (mapTree a.treeFields) "type" d = a.type := hfields.textOr_textTree rfl d
  have htooltip (d : Text) : textOr (mapTree a.treeFields) "tooltip" d = a.tooltip :=
    hfields.textOr_textTree rfl d
  rw [treeArgument, toTree, hitem.entries]
  simp [htype, htooltip, toArgument]

theorem dataArgument_toDatum (owner : Text) (i : Nat) :
    dataArgument owner i a.toDatum = .ok (some (.inl a.toArgument)) := by
  have htype : a.dataFields.get "type" = .text a.type := by simp [dataFields, Fields.get]
  have htooltip : a.dataFields.get "tooltip" = .text a.tooltip := by
    simp [dataFields, Fields.get]
  have hdesc := dataDescription_of_get htooltip
  rw [a.cleaned] at hdesc
  have hentry : entryFields? (.map a.dataFields) = some a.dataFields := rfl
  have hopened : a.toDatum.opened = .map [(.text a.name, .map a.dataFields)] := rfl
  rw [dataArgument, hopened]
  simp [hentry, htype, hdesc, display?_text, withinLimit, toArgument]

/-- Arguments become items of an array in their order. -/
theorem treeItems_toTree (owner : Text) (i : Nat) (args : List ArgumentEntry) :
    treeItems owner i (args.map toTree) = args.map fun a ↦ some (.inl a.toArgument) := by
  induction args generalizing i with
  | nil => rfl
  | cons a args ih => rw [List.map_cons, List.map_cons, treeItems, treeArgument_toTree, ih]

theorem dataItems_toDatum (owner : Text) (i : Nat) (args : List ArgumentEntry) :
    dataItems owner i (args.map toDatum) = pure (args.map fun a ↦ some (.inl a.toArgument)) := by
  induction args generalizing i with
  | nil => rfl
  | cons a args ih =>
    rw [List.map_cons, List.map_cons, dataItems, dataArgument_toDatum, Traced.ofExcept_ok_bind, ih]
    rfl

end ArgumentEntry

section Arguments

variable (args : List ArgumentEntry)

/-- The arguments of an entry as an array. -/
def argumentsTree : Tree := arrayTree (args.map ArgumentEntry.toTree)

/-- The arguments of an entry as a list. -/
def argumentsData : Datum := .list (args.map ArgumentEntry.toDatum)

/-- What the arguments of an entry are read as. -/
def argumentItems : List ArgumentItem := args.map fun a ↦ some (.inl a.toArgument)

@[simp] theorem tag_argumentsTree : (argumentsTree args).tag = Text.ofString "array" := rfl

@[simp] theorem argumentsOf_argumentItems :
    argumentsOf (argumentItems args) = args.map ArgumentEntry.toArgument := by
  rw [argumentItems, argumentsOf, List.filterMap_map]
  exact congrFun List.filterMap_eq_map args

@[simp] theorem argumentDiagnostics_argumentItems :
    argumentDiagnostics (argumentItems args) = [] := by
  rw [argumentItems, argumentDiagnostics, List.filterMap_map]
  exact List.filterMap_eq_nil_iff.mpr fun _ _ ↦ rfl

theorem treeArguments_argumentsTree {fields : List (Text × Tree)} (h : WellKeyed fields)
    (hargs : fields.lookup (Text.ofString "arguments") = some (argumentsTree args)) (owner : Text) :
    treeArguments owner (mapTree fields) = argumentItems args := by
  have hitems : treeArgumentItems (mapTree fields) = args.map ArgumentEntry.toTree := by
    rw [treeArgumentItems, h.get?, hargs]
    exact if_pos rfl
  rw [treeArguments_eq, hitems, ArgumentEntry.treeItems_toTree, argumentItems]

theorem dataArguments_argumentsData {fields : Fields}
    (h : fields.get "arguments" = argumentsData args) (owner : Text) :
    dataArguments owner fields = pure (args.map ArgumentEntry.toArgument) := by
  rw [dataArguments, h, argumentsData, itemsOf_list, Traced.ofExcept_ok_bind,
    ArgumentEntry.dataItems_toDatum, ← argumentsOf_argumentItems]
  rfl

end Arguments

/-! ## Functions -/

/-- An integer has no more digits than are converted. -/
def IsShort (n : Int) : Prop := n.natAbs < Nat.pow 10 DigitLimit.limit

/-- The digits of a cost are read if there are not too many. -/
theorem treeCost_numberTree {fields : List (Text × Tree)} (h : WellKeyed fields) {key : Text}
    {n : Int} (hvalue : fields.lookup key = some (numberTree n)) (default : Text) :
    Outcome (fun d ↦ IsShort n ∧ d = .int n) (fun _ ↦ ¬ IsShort n)
      (treeCost (mapTree fields) key default) := by
  rw [treeCost, h.textOr hvalue, text_numberTree, Text.leadingInt?_ofInt]
  split
  · next hshort => exact .ok ⟨hshort, rfl⟩
  · next hlong => exact .error hlong

namespace FunctionEntry

variable (effects : EffectTable) (name : Text) (f : FunctionEntry)

/-- The function in an entry. -/
def toFunction : Catalogue.Function :=
  { name
    args := f.args.map ArgumentEntry.toArgument
    result := .text f.result
    desc := .text f.tooltip.cleanDescription
    energy := .int f.energy
    sleep := .int f.sleep
    mustUse := !(effectOf effects name).isTruthy
    link := some (capitalLink name) }

/-- The fields of a function in a marked-up document. -/
def treeFields : List (Text × Tree) :=
  [
    ("arguments", argumentsTree f.args),
    ("return", textTree f.result),
    ("energy", numberTree f.energy),
    ("sleep", numberTree f.sleep),
    ("tooltip", textTree f.tooltip)]

/-- The fields of a function in an indented document. -/
def dataFields : Fields :=
  [
    (.text "arguments", argumentsData f.args),
    (.text "return", .text f.result),
    (.text "energy", .int f.energy),
    (.text "sleep", .int f.sleep),
    (.text "tooltip", .text f.tooltip)]

/-- The costs have no more digits than are converted. -/
def HasShortCosts : Prop := IsShort f.energy ∧ IsShort f.sleep

theorem wellKeyed : WellKeyed f.treeFields where
  nodup := by simp [treeFields]
  not_key := by simp [treeFields, keyTag]

/-- Only the costs of a function in a marked-up document can be too long; nothing is remarked on it. -/
theorem treeFunction_eq :
    treeFunction effects name (mapTree f.treeFields) = Traced.ofExcept (do
      let energy ← treeCost (mapTree f.treeFields) "energy" "10"
      let sleep ← treeCost (mapTree f.treeFields) "sleep" "0"
      return { f.toFunction effects name with energy, sleep }) := by
  have hargs := treeArguments_argumentsTree f.args f.wellKeyed rfl name
  have hresult (d : Text) : textOr (mapTree f.treeFields) "return" d = f.result :=
    f.wellKeyed.textOr_textTree rfl d
  have htooltip (d : Text) : textOr (mapTree f.treeFields) "tooltip" d = f.tooltip :=
    f.wellKeyed.textOr_textTree rfl d
  rw [treeFunction, hargs, argumentDiagnostics_argumentItems, Traced.note_nil_bind, hresult,
    argumentsOf_argumentItems, treeDescription, htooltip]
  cases treeCost (mapTree f.treeFields) "energy" "10" with
  | error e => rfl
  | ok energy => cases treeCost (mapTree f.treeFields) "sleep" "0" <;> rfl

theorem treeFunction_outcome :
    Outcome (fun r ↦ f.HasShortCosts ∧ r = f.toFunction effects name)
      (fun _ ↦ ¬ f.HasShortCosts) (treeFunction effects name (mapTree f.treeFields)).result := by
  have henergy : Outcome (fun d ↦ IsShort f.energy ∧ d = .int f.energy)
      (fun _ ↦ ¬ IsShort f.energy) (treeCost (mapTree f.treeFields) "energy" "10") :=
    treeCost_numberTree f.wellKeyed rfl _
  have hsleep : Outcome (fun d ↦ IsShort f.sleep ∧ d = .int f.sleep)
      (fun _ ↦ ¬ IsShort f.sleep) (treeCost (mapTree f.treeFields) "sleep" "0") :=
    treeCost_numberTree f.wellKeyed rfl _
  rw [treeFunction_eq]
  apply (henergy.mono_error fun _ hlong hshort ↦ hlong hshort.1).bind
  rintro _ ⟨hshortEnergy, rfl⟩
  apply (hsleep.mono_error fun _ hlong hshort ↦ hlong hshort.2).bind
  rintro _ ⟨hshortSleep, rfl⟩
  exact .ok ⟨⟨hshortEnergy, hshortSleep⟩, rfl⟩

theorem dataFunction_eq :
    dataFunction effects name f.dataFields = pure (f.toFunction effects name) := by
  have hargs : dataArguments name f.dataFields = pure (f.args.map ArgumentEntry.toArgument) :=
    dataArguments_argumentsData f.args (by simp [dataFields, Fields.get]) name
  have hdesc : dataDescription f.dataFields = .ok (.text f.tooltip.cleanDescription) :=
    dataDescription_of_get (by simp [dataFields, Fields.get])
  have hflags : ∀ key ∈ ["private", "deprecated", "god-mode", "linden-experience"],
      dataFlag f.dataFields (Text.ofString key) = false := by
    simp [dataFlag, dataFields, Fields.get, Datum.isTruthy, Scalar.isTruthy]
  have hcosts : f.dataFields.get "energy" = .int f.energy ∧ f.dataFields.get "sleep" = .int f.sleep ∧
      f.dataFields.get "return" = .text f.result := by
    simp [dataFields, Fields.get]
  obtain ⟨henergy, hsleep, hresult⟩ := hcosts
  rw [dataFunction, hargs, hdesc, henergy, hsleep, hresult, hflags "private" (by simp),
    hflags "deprecated" (by simp), hflags "god-mode" (by simp), hflags "linden-experience" (by simp)]
  rfl

theorem treeFunction_hasResult :
    HasResult (treeFunction effects name (mapTree f.treeFields)).result ↔ f.HasShortCosts := by
  have houtcome := f.treeFunction_outcome effects name
  constructor
  · intro h
    obtain ⟨r, hr⟩ := h.exists_ok
    exact (houtcome.of_ok hr).1
  · intro hshort
    exact (houtcome.mono fun _ _ ↦ trivial).mono_error fun _ hlong ↦ hlong hshort

theorem agree : Traced.Agree (treeFunction effects name (mapTree f.treeFields))
    (dataFunction effects name f.dataFields) := by
  intro notes r notes' r' hr hr'
  obtain ⟨rfl, rfl⟩ := Traced.pure_eq_ok.mp ((f.dataFunction_eq effects name).symm.trans hr')
  have hresult : (treeFunction effects name (mapTree f.treeFields)).result = .ok r := by rw [hr]
  obtain ⟨rfl, -⟩ := Traced.ofExcept_eq_ok.mp ((f.treeFunction_eq effects name).symm.trans hr)
  exact ⟨rfl, ((f.treeFunction_outcome effects name).of_ok hresult).2⟩

end FunctionEntry

/-! ## Constants -/

namespace ConstantEntry

variable (name : Text) (c : ConstantEntry)

/-- The fields of a constant in a marked-up document. -/
def treeFields : List (Text × Tree) :=
  [("type", textTree c.type), ("value", textTree c.value), ("tooltip", textTree c.tooltip)]

/-- The fields of a constant in an indented document. -/
def dataFields : Fields :=
  [(.text "type", .text c.type), (.text "value", .text c.value), (.text "tooltip", .text c.tooltip)]

/-- The text of an integer begins with no more digits than are converted. -/
def HasShortValue : Prop := c.type = Text.ofString "integer" → HasResult c.value.leadingInt?

theorem wellKeyed : WellKeyed c.treeFields where
  nodup := by simp [treeFields]
  not_key := by simp [treeFields, keyTag]

theorem castConstant_hasResult :
    HasResult (castConstant c.value (.text c.type)) ↔ c.HasShortValue := by
  constructor
  · intro h htype
    cases hint : c.value.leadingInt? with
    | ok n => exact .ok trivial
    | error e =>
      have hcast : castConstant c.value (.text c.type) = .error e := by
        simp [castConstant, Datum.toText?, htype, hint]
      obtain ⟨r, hr⟩ := h.exists_ok
      rw [hcast] at hr
      cases hr
  · intro h
    cases hcast : castConstant c.value (.text c.type) with
    | ok r => exact .ok trivial
    | error e =>
      obtain ⟨htype, hint⟩ := (castConstant_castTo _ _).of_error hcast
      obtain ⟨n, hn⟩ := (h (by simpa using htype)).exists_ok
      rw [hint] at hn
      cases hn

theorem textOr_type (default : Text) : textOr (mapTree c.treeFields) "type" default = c.type :=
  c.wellKeyed.textOr_textTree rfl default

theorem textOr_value (default : Text) : textOr (mapTree c.treeFields) "value" default = c.value :=
  c.wellKeyed.textOr_textTree rfl default

theorem treeConstant_hasResult :
    HasResult (treeConstant name (mapTree c.treeFields)).result ↔ c.HasShortValue := by
  rw [treeConstant, textOr_type, textOr_value, ← castConstant_hasResult, Traced.result_bind]
  exact HasResult.returns_iff _

/-- Both forms of a constant are read alike. -/
theorem dataConstant_eq :
    dataConstant name c.dataFields =
      (treeConstant name (mapTree c.treeFields)).mapError .digitLimit := by
  have htooltip (d : Text) : textOr (mapTree c.treeFields) "tooltip" d = c.tooltip :=
    c.wellKeyed.textOr_textTree rfl d
  have hraw : fieldText (c.dataFields.get "value") = .ok c.value := by
    simp [dataFields, Fields.get, fieldText, display?_text, withinLimit]
  have htype : c.dataFields.get "type" = .text c.type := by simp [dataFields, Fields.get]
  have hdesc : dataDescription c.dataFields = .ok (.text c.tooltip.cleanDescription) :=
    dataDescription_of_get (by simp [dataFields, Fields.get])
  have hdeprecated : dataFlag c.dataFields "deprecated" = false := by
    simp [dataFlag, dataFields, Fields.get, Datum.isTruthy, Scalar.isTruthy]
  have hprivate : dataFlag c.dataFields "private" = false := by
    simp [dataFlag, dataFields, Fields.get, Datum.isTruthy, Scalar.isTruthy]
  have hshown : (Datum.text c.type).expression? = .ok c.type.quoted := rfl
  rw [dataConstant, hraw, Traced.ofExcept_ok_bind, htype, hdesc, treeConstant, textOr_type,
    textOr_value, hdeprecated, hprivate, treeDescription, htooltip]
  dsimp only
  cases castConstant c.value (.text c.type) with
  | error e => rfl
  | ok r =>
    obtain ⟨value, problem⟩ := r
    cases problem with
    | none => rfl
    | some rule => simp [withinLimit, castDiagnostics, hshown]; rfl

theorem agree :
    Traced.Agree (treeConstant name (mapTree c.treeFields)) (dataConstant name c.dataFields) := by
  intro notes r notes' r' hr hr'
  rw [c.dataConstant_eq, hr] at hr'
  cases hr'
  exact ⟨rfl, rfl⟩

end ConstantEntry

/-! ## Events -/

namespace EventEntry

variable (name : Text) (e : EventEntry)

/-- The fields of an event in a marked-up document. -/
def treeFields : List (Text × Tree) :=
  [("arguments", argumentsTree e.args), ("tooltip", textTree e.tooltip)]

/-- The fields of an event in an indented document. -/
def dataFields : Fields :=
  [(.text "arguments", argumentsData e.args), (.text "tooltip", .text e.tooltip)]

theorem wellKeyed : WellKeyed e.treeFields where
  nodup := by simp [treeFields]
  not_key := by simp [treeFields, keyTag]

/-- The event in an entry. -/
def toEvent : Catalogue.Event :=
  { name
    args := e.args.map ArgumentEntry.toArgument
    desc := .text e.tooltip.cleanDescription
    link := capitalLink name }

theorem treeEvent_eq : treeEvent name (mapTree e.treeFields) = pure (e.toEvent name) := by
  have hargs := treeArguments_argumentsTree e.args e.wellKeyed rfl name
  have htooltip (d : Text) : textOr (mapTree e.treeFields) "tooltip" d = e.tooltip :=
    e.wellKeyed.textOr_textTree rfl d
  rw [treeEvent, hargs, argumentDiagnostics_argumentItems, Traced.note_nil_bind,
    argumentsOf_argumentItems, treeDescription, htooltip]
  rfl

theorem dataEvent_eq : dataEvent name e.dataFields = pure (e.toEvent name) := by
  have hargs : dataArguments name e.dataFields = pure (e.args.map ArgumentEntry.toArgument) :=
    dataArguments_argumentsData e.args (by simp [dataFields, Fields.get]) name
  have hdesc : dataDescription e.dataFields = .ok (.text e.tooltip.cleanDescription) :=
    dataDescription_of_get (by simp [dataFields, Fields.get])
  have hdeprecated : dataFlag e.dataFields "deprecated" = false := by
    simp [dataFlag, dataFields, Fields.get, Datum.isTruthy, Scalar.isTruthy]
  rw [dataEvent, hargs, hdesc, hdeprecated]
  rfl

theorem agree :
    Traced.Agree (treeEvent name (mapTree e.treeFields)) (dataEvent name e.dataFields) := by
  intro notes r notes' r' hr hr'
  obtain ⟨rfl, rfl⟩ := Traced.pure_eq_ok.mp ((e.treeEvent_eq name).symm.trans hr)
  obtain ⟨rfl, rfl⟩ := Traced.pure_eq_ok.mp ((e.dataEvent_eq name).symm.trans hr')
  exact ⟨rfl, rfl⟩

end EventEntry

end Keywords

end ScriptDefs
