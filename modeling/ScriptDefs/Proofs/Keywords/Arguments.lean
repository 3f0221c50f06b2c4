import ScriptDefs.Keywords.FromData
import ScriptDefs.Keywords.FromTree
import ScriptDefs.Proofs.Data.Related
import ScriptDefs.Proofs.Traced

/-!
# Arguments of functions and events

Every item among the arguments of an entry becomes one argument or one diagnostic on the entry, in
the order of the items. In marked-up documents there are exceptions, which become neither: items
that are no maps, and items whose only definition is no map.
-/

namespace ScriptDefs

namespace Keywords

open Catalogue Markup

/-! ## Items -/

/-- How the items of a source are told apart: an item stands for an argument, or it is passed over,
or it is malformed. -/
structure ItemKind (α : Type) where
  isArgument : α → Argument → Prop
  isPassedOver : α → Prop
  /-- A malformed item as it is shown in its diagnostic. -/
  shown : α → Text

/-- What an item becomes among the arguments of its owner: an argument, a diagnostic, or neither. -/
inductive ItemOutcome {α : Type} (kind : ItemKind α) (owner : Text) (i : Nat) (item : α) :
    ArgumentItem → Prop where
  | argument {a : Argument} (h : kind.isArgument item a) (hp : ¬ kind.isPassedOver item) :
    ItemOutcome kind owner i item (some (.inl a))
  | malformed (h : ∀ a, ¬ kind.isArgument item a) (hp : ¬ kind.isPassedOver item) :
    ItemOutcome kind owner i item
      (some (.inr (malformedArgument.emit owner (malformedDetail i (kind.shown item)))))
  | passedOver (h : ∀ a, ¬ kind.isArgument item a) (hp : kind.isPassedOver item) :
    ItemOutcome kind owner i item none

/-- The arguments and the diagnostics on their owner that items become in their order. Together they
are as many as the items if no item is passed over, and only then. -/
structure Itemized {α : Type} (kind : ItemKind α) (owner : Text) (items : List α)
    (args : List Argument) (ds : List Diagnostic) : Prop where
  outcomes : ∃ outcomes, ItemsRelated (ItemOutcome kind owner) 0 items outcomes ∧
    args = argumentsOf outcomes ∧ ds = argumentDiagnostics outcomes
  subject : ∀ d ∈ ds, d.code = malformedArgument.code ∧ d.subject = some owner
  count : args.length + ds.length = items.length ↔ ∀ item ∈ items, ¬ kind.isPassedOver item

section Outcomes

variable {α : Type} {kind : ItemKind α} {owner : Text} {i : Nat} {items : List α}
  {outcomes : List ArgumentItem}

@[simp] theorem argumentsOf_cons (o : ArgumentItem) (outcomes : List ArgumentItem) :
    argumentsOf (o :: outcomes) = argumentsOf [o] ++ argumentsOf outcomes := by
  rw [argumentsOf, argumentsOf, argumentsOf, ← List.filterMap_append]
  rfl

@[simp] theorem argumentDiagnostics_cons (o : ArgumentItem) (outcomes : List ArgumentItem) :
    argumentDiagnostics (o :: outcomes) =
      argumentDiagnostics [o] ++ argumentDiagnostics outcomes := by
  rw [argumentDiagnostics, argumentDiagnostics, argumentDiagnostics, ← List.filterMap_append]
  rfl

/-- An item becomes one argument or one diagnostic, unless it is passed over. -/
theorem ItemOutcome.length {item : α} {o : ArgumentItem} (h : ItemOutcome kind owner i item o) :
    ((argumentsOf [o]).length + (argumentDiagnostics [o]).length = 1 ∧ ¬ kind.isPassedOver item) ∨
      ((argumentsOf [o]).length + (argumentDiagnostics [o]).length = 0 ∧
        kind.isPassedOver item) := by
  cases h with
  | argument _ hp | malformed _ hp => exact .inl ⟨rfl, hp⟩
  | passedOver _ hp => exact .inr ⟨rfl, hp⟩

theorem length_outcomes (h : ItemsRelated (ItemOutcome kind owner) i items outcomes) :
    (argumentsOf outcomes).length + (argumentDiagnostics outcomes).length ≤ items.length ∧
      ((argumentsOf outcomes).length + (argumentDiagnostics outcomes).length = items.length ↔
        ∀ item ∈ items, ¬ kind.isPassedOver item) := by
  induction h with
  | nil => simp [argumentsOf, argumentDiagnostics]
  | cons h _ ih =>
    obtain ⟨hle, hiff⟩ := ih
    rw [argumentsOf_cons, argumentDiagnostics_cons, List.length_append, List.length_append,
      List.length_cons, List.forall_mem_cons, ← hiff]
    rcases h.length with ⟨hone, hp⟩ | ⟨hzero, hp⟩
    · exact ⟨by omega, fun heq ↦ ⟨hp, by omega⟩, fun heq ↦ by omega⟩
    · exact ⟨by omega, fun heq ↦ by omega, fun heq ↦ absurd hp heq.1⟩

theorem subject_outcomes (h : ItemsRelated (ItemOutcome kind owner) i items outcomes) :
    ∀ d ∈ argumentDiagnostics outcomes,
      d.code = malformedArgument.code ∧ d.subject = some owner := by
  induction h with
  | nil => exact List.forall_mem_nil _
  | cons h _ ih =>
    rw [argumentDiagnostics_cons, List.forall_mem_append]
    refine ⟨?_, ih⟩
    cases h with
    | argument _ _ | passedOver _ _ => exact List.forall_mem_nil _
    | malformed _ _ => exact List.forall_mem_singleton.mpr ⟨rfl, rfl⟩

theorem itemized_outcomes (h : ItemsRelated (ItemOutcome kind owner) 0 items outcomes) :
    Itemized kind owner items (argumentsOf outcomes) (argumentDiagnostics outcomes) where
  outcomes := ⟨outcomes, h, rfl, rfl⟩
  subject := subject_outcomes h
  count := (length_outcomes h).2

end Outcomes

/-! ## Marked-up documents -/

/-- The items of marked-up documents: an argument is a map with one name, whose definition is a map.
What is no map is passed over, alone or as a definition. -/
def treeItem : ItemKind Tree where
  isArgument item a := item.isMap = true ∧ ∃ definition, item.entries = [(a.name, definition)] ∧
    definition.isMap = true ∧ a.type = .text (textOr definition "type" "n/a") ∧
    a.desc = .text (textOr definition "tooltip" [])
  isPassedOver item := item.isMap = false ∨
    ∃ name definition, item.entries = [(name, definition)] ∧ definition.isMap = false
  shown := Tree.shown

/-- The items among the arguments of a definition: those of an array. -/
def treeArgumentItems (definition : Tree) : List Tree :=
  match definition.get? "arguments" with
  | some items => if items.tag = Text.ofString "array" then items.children else []
  | none => []

theorem treeArgument_outcome (owner : Text) (i : Nat) (item : Tree) :
    ItemOutcome treeItem owner i item (treeArgument owner i item) := by
  rw [treeArgument]
  by_cases hmap : item.isMap = true
  · rw [if_neg (by simpa using hmap)]
    split
    · next name definition hentries =>
      by_cases hdefinition : definition.isMap = true
      · rw [if_pos hdefinition]
        refine .argument ⟨hmap, definition, hentries, hdefinition, rfl, rfl⟩ ?_
        rintro (hno | ⟨_, _, heq, hno⟩)
        · simp [hmap] at hno
        · rw [hentries] at heq
          cases heq
          simp [hdefinition] at hno
      · rw [if_neg hdefinition]
        refine .passedOver ?_ (.inr ⟨name, definition, hentries, by simpa using hdefinition⟩)
        rintro a ⟨_, _, heq, hyes, _⟩
        rw [hentries] at heq
        cases heq
        exact hdefinition hyes
    · next hentries =>
      refine .malformed ?_ ?_
      · rintro a ⟨_, _, heq, _⟩
        exact hentries _ _ heq
      · rintro (hno | ⟨_, _, heq, _⟩)
        · simp [hmap] at hno
        · exact hentries _ _ heq
  · rw [if_pos (by simpa using hmap)]
    exact .passedOver (fun _ h ↦ hmap h.1) (.inl (by simpa using hmap))

theorem treeItems_outcomes (owner : Text) (i : Nat) (items : List Tree) :
    ItemsRelated (ItemOutcome treeItem owner) i items (treeItems owner i items) := by
  induction items generalizing i with
  | nil => exact .nil i
  | cons item items ih => exact .cons (treeArgument_outcome owner i item) (ih (i + 1))

theorem treeArguments_eq (owner : Text) (definition : Tree) :
    treeArguments owner definition = treeItems owner 0 (treeArgumentItems definition) := by
  rw [treeArguments, treeArgumentItems]
  cases definition.get? "arguments" with
  | none => rfl
  | some items =>
    dsimp only
    split <;> rfl

theorem treeArguments_itemized (owner : Text) (definition : Tree) :
    Itemized treeItem owner (treeArgumentItems definition)
      (argumentsOf (treeArguments owner definition))
      (argumentDiagnostics (treeArguments owner definition)) := by
  rw [treeArguments_eq]
  exact itemized_outcomes (treeItems_outcomes owner 0 _)

/-! ## Indented documents -/

/-- The items of indented documents: an argument is a mapping with one name, whose definition is a
mapping or null. Nothing is passed over. -/
def dataItem : ItemKind Datum where
  isArgument item a := ∃ name d definition, item.opened = .map [(name, d)] ∧
    entryFields? d = some definition ∧ (Datum.scalar name).display? = .ok a.name ∧
    a.type = definition.get "type" ∧ dataDescription definition = .ok a.desc
  isPassedOver _ := False
  shown := Datum.expression

theorem expression?_eq_ok {d : Datum} {t : Text} (h : d.expression? = .ok t) :
    t = d.expression := by
  rw [Datum.expression?] at h
  split at h
  · exact (Except.ok.inj h).symm
  · cases h

theorem dataArgument_outcome {owner : Text} {i : Nat} {item : Datum} {o : ArgumentItem}
    (h : dataArgument owner i item = .ok o) : ItemOutcome dataItem owner i item o := by
  have hmalformed (hno : ∀ a, ¬ dataItem.isArgument item a)
      (h : (do
        let shown ← withinLimit item.expression?
        return some (.inr (malformedArgument.emit owner (malformedDetail i shown))) :
          Except DataError ArgumentItem) = .ok o) :
      ItemOutcome dataItem owner i item o := by
    obtain ⟨shown, hshown, ho⟩ := bind_eq_ok.mp h
    cases ho
    rw [expression?_eq_ok (mapError_eq_ok.mp hshown)]
    exact .malformed hno id
  rw [dataArgument] at h
  split at h
  · next name d hopened =>
    split at h
    · next definition hdefinition =>
      obtain ⟨shown, hshown, h⟩ := bind_eq_ok.mp h
      obtain ⟨desc, hdesc, h⟩ := bind_eq_ok.mp h
      cases h
      exact .argument
        ⟨name, d, definition, hopened, hdefinition, mapError_eq_ok.mp hshown, rfl, hdesc⟩ id
    · next hdefinition =>
      refine hmalformed ?_ h
      rintro a ⟨_, _, _, heq, hsome, _⟩
      rw [hopened] at heq
      cases heq
      rw [hdefinition] at hsome
      cases hsome
  · next hopened =>
    refine hmalformed ?_ h
    rintro a ⟨_, _, _, heq, _⟩
    exact hopened _ _ heq

theorem dataItems_outcomes {owner : Text} {i : Nat} {items : List Datum}
    {outcomes : List ArgumentItem} {ds : List Diagnostic}
    (h : dataItems owner i items = ⟨ds, .ok outcomes⟩) :
    ItemsRelated (ItemOutcome dataItem owner) i items outcomes ∧
      ds = argumentDiagnostics outcomes := by
  induction items generalizing i outcomes ds with
  | nil =>
    obtain ⟨rfl, rfl⟩ := Traced.pure_eq_ok.mp h
    exact ⟨.nil i, rfl⟩
  | cons item items ih =>
    obtain ⟨o, ho, h⟩ := Traced.ofExcept_bind_eq_ok.mp h
    obtain ⟨_, hafter, rfl⟩ := Traced.note_bind_eq_ok.mp h
    obtain ⟨_, rest, _, hrest, hend, rfl⟩ := Traced.bind_eq_ok.mp hafter
    obtain ⟨rfl, rfl⟩ := Traced.pure_eq_ok.mp hend
    obtain ⟨hitems, rfl⟩ := ih hrest
    refine ⟨.cons (dataArgument_outcome ho) hitems, ?_⟩
    rw [argumentDiagnostics_cons o rest, List.append_nil]

theorem dataArguments_itemized {owner : Text} {fields : Fields} {args : List Argument}
    {ds : List Diagnostic} (h : dataArguments owner fields = ⟨ds, .ok args⟩) :
    ∃ items, itemsOf (fields.get "arguments") = .ok items ∧
      Itemized dataItem owner items args ds := by
  obtain ⟨items, hitems, h⟩ := Traced.ofExcept_bind_eq_ok.mp h
  obtain ⟨_, outcomes, _, houtcomes, hend, rfl⟩ := Traced.bind_eq_ok.mp h
  obtain ⟨rfl, rfl⟩ := Traced.pure_eq_ok.mp hend
  obtain ⟨hrelated, rfl⟩ := dataItems_outcomes houtcomes
  rw [List.append_nil]
  exact ⟨items, hitems, itemized_outcomes hrelated⟩

/-- The items of a list are its own. -/
theorem itemsOf_list (items : List Datum) : itemsOf (.list items) = .ok items := by
  cases items <;> rfl

/-! ## Sections -/

/-- The definitions of a section as they are read one by one, with the diagnostics on each. -/
abbrev Section (α : Type) := List (Text × α × List Diagnostic)

/-- The section by name. -/
def Section.entries {α : Type} (s : Section α) : Assoc Text α :=
  Assoc.ofList (s.map fun e ↦ (e.1, e.2.1))

/-- The diagnostics on a section, in the order of its definitions. -/
def Section.diagnostics {α : Type} (s : Section α) : List Diagnostic := s.flatMap fun e ↦ e.2.2

@[simp] theorem diagnosticsIn_append (notes notes' : List Note) :
    diagnosticsIn (notes ++ notes') = diagnosticsIn notes ++ diagnosticsIn notes' :=
  List.filterMap_append

@[simp] theorem diagnosticsIn_map (ds : List Diagnostic) :
    diagnosticsIn (ds.map .diagnostic) = ds := by
  rw [diagnosticsIn, List.filterMap_map]
  exact List.filterMap_some

@[simp] theorem diagnosticsIn_sectionNotes (root : Tree) (name : Text) :
    diagnosticsIn (sectionNotes root name) = [] := by
  rw [sectionNotes]
  split <;> rfl

/-- A section has the definitions of a source one by one, each with what its items become. -/
def Accounted {α β γ : Type} (kind : ItemKind α) (items : β → List α → Prop)
    (args : γ → List Argument) : List (Text × β) → Section γ → Prop :=
  List.Forall₂ fun d e ↦
    e.1 = d.1 ∧ ∃ as, items d.2 as ∧ Itemized kind d.1 as (args e.2.1) e.2.2

/-- The functions and the events of a catalogue come from the definitions of a source. The
diagnostics on arguments among some remarks are those on the functions, and then those on the
events. -/
def ArgumentsAccounted {α β : Type} (kind : ItemKind α) (items : β → List α → Prop)
    (functions events : List (Text × β)) (notes : List Note) (c : Catalogue) : Prop :=
  ∃ (fs : Section Catalogue.Function) (others : List Diagnostic) (es : Section Catalogue.Event),
    c.functions = fs.entries ∧ c.events = es.entries ∧
    diagnosticsIn notes = fs.diagnostics ++ others ++ es.diagnostics ∧
    (∀ d ∈ others, d.code ≠ malformedArgument.code) ∧
    Accounted kind items Function.args functions fs ∧ Accounted kind items Event.args events es

/-! ### Reading sections -/

section Reading

variable {ε α β : Type} {read : Text → β → Traced Diagnostic ε α} {definitions : List (Text × β)}

/-- A section holds what a reader makes of definitions. -/
abbrev ReadBy (read : Text → β → Traced Diagnostic ε α) : List (Text × β) → Section α → Prop :=
  List.Forall₂ fun d e ↦ e.1 = d.1 ∧ read d.1 d.2 = ⟨e.2.2, .ok e.2.1⟩

theorem readEntries_eq_ok {ds : List Diagnostic} {entries : List (Text × α)}
    (h : readEntries read definitions = ⟨ds, .ok entries⟩) :
    ∃ s : Section α, ReadBy read definitions s ∧ entries = s.map (fun e ↦ (e.1, e.2.1)) ∧
      ds = s.diagnostics := by
  induction definitions generalizing ds entries with
  | nil =>
    obtain ⟨rfl, rfl⟩ := Traced.pure_eq_ok.mp h
    exact ⟨[], .nil, rfl, rfl⟩
  | cons d definitions ih =>
    obtain ⟨first, entry, _, hentry, hafter, rfl⟩ := Traced.bind_eq_ok.mp h
    obtain ⟨_, rest, _, hrest, hend, rfl⟩ := Traced.bind_eq_ok.mp hafter
    obtain ⟨rfl, rfl⟩ := Traced.pure_eq_ok.mp hend
    obtain ⟨s, hs, rfl, rfl⟩ := ih hrest
    refine ⟨(d.1, entry, first) :: s, .cons ⟨rfl, hentry⟩ hs, rfl, ?_⟩
    rw [List.append_nil]
    rfl

/-- A section has a result when each of its definitions has one. -/
theorem readSection_hasResult :
    HasResult (readSection read definitions).result ↔
      ∀ d ∈ definitions, HasResult (read d.1 d.2).result := by
  have hentries : HasResult (readEntries read definitions).result ↔
      ∀ d ∈ definitions, HasResult (read d.1 d.2).result := by
    induction definitions with
    | nil => exact iff_of_true (.ok trivial) (List.forall_mem_nil _)
    | cons d definitions ih =>
      rw [readEntries, Traced.result_bind, List.forall_mem_cons, ← ih]
      refine HasResult.bind_iff fun _ _ ↦ ?_
      rw [Traced.result_bind]
      exact HasResult.returns_iff _
  rw [readSection, Traced.result_bind, ← hentries]
  exact HasResult.returns_iff _

theorem readSection_eq_ok {notes : List Note} {m : Assoc Text α}
    (h : readSection read definitions = ⟨notes, .ok m⟩) :
    ∃ s : Section α, ReadBy read definitions s ∧ m = s.entries ∧
      diagnosticsIn notes = s.diagnostics := by
  obtain ⟨_, _, _, hread, hend, rfl⟩ := Traced.bind_eq_ok.mp h
  obtain ⟨rfl, rfl⟩ := Traced.pure_eq_ok.mp hend
  obtain ⟨_, hentries, rfl⟩ := Traced.mapNotes_eq_ok.mp hread
  obtain ⟨s, hs, rfl, rfl⟩ := readEntries_eq_ok hentries
  exact ⟨s, hs, rfl, by rw [List.append_nil, diagnosticsIn_map]⟩

end Reading

theorem treeSection_eq_ok {α : Type} {read : Text → Tree → Traced Diagnostic DigitLimit α}
    {root : Tree} {name : Text} {definitions : List (Text × Tree)} {notes : List Note}
    {m : Assoc Text α} (h : treeSection root name read definitions = ⟨notes, .ok m⟩) :
    ∃ s : Section α, ReadBy read definitions s ∧ m = s.entries ∧
      diagnosticsIn notes = s.diagnostics := by
  obtain ⟨_, hread, rfl⟩ := Traced.note_bind_eq_ok.mp h
  obtain ⟨s, hs, hm, hnotes⟩ := readSection_eq_ok hread
  exact ⟨s, hs, hm, by simp [hnotes]⟩

theorem dataTable_eq_ok {α : Type} {read : Text → Fields → Traced Diagnostic DataError α}
    {data : Fields} {name : Text} {notes : List Note} {m : Assoc Text α}
    (h : dataTable read data name = ⟨notes, .ok m⟩) :
    ∃ definitions, dataSection data name = .ok definitions ∧
      ∃ s : Section α, ReadBy read definitions s ∧ m = s.entries ∧
        diagnosticsIn notes = s.diagnostics := by
  obtain ⟨definitions, hdefinitions, h⟩ := Traced.ofExcept_bind_eq_ok.mp h
  exact ⟨definitions, hdefinitions, readSection_eq_ok h⟩

/-- What holds of the diagnostics on every definition holds of those on the section. -/
theorem forall_diagnostics {α β : Type} {P : Diagnostic → Prop}
    {R : Text × β → Text × α × List Diagnostic → Prop} {definitions : List (Text × β)}
    {s : Section α} (h : List.Forall₂ R definitions s)
    (hR : ∀ d e, R d e → ∀ x ∈ e.2.2, P x) : ∀ x ∈ s.diagnostics, P x := by
  induction h with
  | nil => exact List.forall_mem_nil _
  | cons h _ ih =>
    rw [Section.diagnostics, List.flatMap_cons, List.forall_mem_append]
    exact ⟨hR _ _ h, ih⟩

/-! ### Constants -/

/-- What the text of a constant is cast to: a number, the text itself, or null with a diagnostic. -/
inductive CastTo (raw : Text) : Datum × Option DiagnosticRule → Prop where
  | int (n : Int) : CastTo raw (.int n, none)
  | float (x : Binary64) : CastTo raw (.float x, none)
  | text : CastTo raw (.text raw, none)
  | failed : CastTo raw (.null, some castFailed)
  | unknownType : CastTo raw (.null, some unknownType)

/-- Only the text of an integer can have too many digits. -/
theorem castConstant_castTo (raw : Text) (type : Datum) :
    Outcome (CastTo raw) (fun e ↦ type = .text "integer" ∧ raw.leadingInt? = .error e)
      (castConstant raw type) := by
  rw [castConstant]
  split
  · exact .ok .unknownType
  next name htype =>
  split
  · next hname =>
    have hinteger : type = .text "integer" := hname ▸ Datum.eq_text_of_toText? htype
    cases hint : raw.leadingInt? with
    | error e => exact .error ⟨hinteger, rfl⟩
    | ok n =>
      cases n with
      | none => exact .ok .failed
      | some n => exact .ok (.int n)
  split
  · split
    · next x _ => exact .ok (.float x)
    · exact .ok .failed
  split
  · exact .ok .text
  · exact .ok .unknownType

/-- The diagnostics on the values of constants are no diagnostics on arguments. -/
theorem CastTo.code {raw : Text} {r : Datum × Option DiagnosticRule} (h : CastTo raw r) :
    ∀ rule ∈ r.2, rule.code ≠ malformedArgument.code := by
  have hunknown : Catalogue.unknownType.code ≠ malformedArgument.code := by decide
  have hfailed : castFailed.code ≠ malformedArgument.code := by decide
  cases h <;> simp [hunknown, hfailed]

theorem treeConstant_code {name : Text} {t : Tree} {c : Catalogue.Constant}
    {ds : List Diagnostic} (h : treeConstant name t = ⟨ds, .ok c⟩) :
    ∀ d ∈ ds, d.code ≠ malformedArgument.code := by
  obtain ⟨⟨value, problem⟩, hcast, h⟩ := Traced.ofExcept_bind_eq_ok.mp h
  obtain ⟨_, hend, rfl⟩ := Traced.note_bind_eq_ok.mp h
  obtain ⟨rfl, -⟩ := Traced.pure_eq_ok.mp hend
  rw [List.append_nil]
  have hcode := ((castConstant_castTo _ _).of_ok hcast).code
  cases problem with
  | none => exact List.forall_mem_nil _
  | some rule => exact List.forall_mem_singleton.mpr (hcode rule rfl)

theorem dataConstant_code {name : Text} {fields : Fields} {c : Catalogue.Constant}
    {ds : List Diagnostic} (h : dataConstant name fields = ⟨ds, .ok c⟩) :
    ∀ d ∈ ds, d.code ≠ malformedArgument.code := by
  obtain ⟨raw, _, h⟩ := Traced.ofExcept_bind_eq_ok.mp h
  obtain ⟨⟨value, problem⟩, hcast, h⟩ := Traced.ofExcept_bind_eq_ok.mp h
  obtain ⟨ds, hds, h⟩ := Traced.ofExcept_bind_eq_ok.mp h
  obtain ⟨_, hrest, rfl⟩ := Traced.note_bind_eq_ok.mp h
  obtain ⟨desc, _, hend⟩ := Traced.ofExcept_bind_eq_ok.mp hrest
  obtain ⟨rfl, -⟩ := Traced.pure_eq_ok.mp hend
  rw [List.append_nil]
  have hcode := ((castConstant_castTo _ _).of_ok (mapError_eq_ok.mp hcast)).code
  cases problem with
  | none =>
    cases hds
    exact List.forall_mem_nil _
  | some rule =>
    obtain ⟨shown, _, hds⟩ := bind_eq_ok.mp hds
    cases hds
    exact List.forall_mem_singleton.mpr (hcode rule rfl)

/-! ### Catalogues -/

theorem treeFunctions_accounted {effects : EffectTable} {definitions : List (Text × Tree)}
    {s : Section Catalogue.Function} (h : ReadBy (treeFunction effects) definitions s) :
    Accounted treeItem (fun d as ↦ as = treeArgumentItems d) Function.args definitions s := by
  refine h.imp fun d e ⟨hname, hread⟩ ↦ ⟨hname, _, rfl, ?_⟩
  obtain ⟨_, hread, hnotes⟩ := Traced.note_bind_eq_ok.mp hread
  obtain ⟨energy, _, hread⟩ := Traced.ofExcept_bind_eq_ok.mp hread
  obtain ⟨sleep, _, hread⟩ := Traced.ofExcept_bind_eq_ok.mp hread
  obtain ⟨rfl, hfunction⟩ := Traced.pure_eq_ok.mp hread
  rw [hnotes, ← hfunction, List.append_nil]
  exact treeArguments_itemized d.1 d.2

theorem treeEvents_accounted {definitions : List (Text × Tree)} {s : Section Catalogue.Event}
    (h : ReadBy treeEvent definitions s) :
    Accounted treeItem (fun d as ↦ as = treeArgumentItems d) Event.args definitions s := by
  refine h.imp fun d e ⟨hname, hread⟩ ↦ ⟨hname, _, rfl, ?_⟩
  obtain ⟨_, hread, hnotes⟩ := Traced.note_bind_eq_ok.mp hread
  obtain ⟨rfl, hevent⟩ := Traced.pure_eq_ok.mp hread
  rw [hnotes, ← hevent, List.append_nil]
  exact treeArguments_itemized d.1 d.2

theorem dataFunctions_accounted {effects : EffectTable} {definitions : List (Text × Fields)}
    {s : Section Catalogue.Function} (h : ReadBy (dataFunction effects) definitions s) :
    Accounted dataItem (fun fields as ↦ itemsOf (fields.get "arguments") = .ok as) Function.args
      definitions s := by
  refine h.imp fun d e ⟨hname, hread⟩ ↦ ⟨hname, ?_⟩
  obtain ⟨_, args, _, hargs, hread, hnotes⟩ := Traced.bind_eq_ok.mp hread
  obtain ⟨desc, _, hread⟩ := Traced.ofExcept_bind_eq_ok.mp hread
  obtain ⟨rfl, hfunction⟩ := Traced.pure_eq_ok.mp hread
  rw [hnotes, ← hfunction, List.append_nil]
  exact dataArguments_itemized hargs

theorem dataEvents_accounted {definitions : List (Text × Fields)} {s : Section Catalogue.Event}
    (h : ReadBy dataEvent definitions s) :
    Accounted dataItem (fun fields as ↦ itemsOf (fields.get "arguments") = .ok as) Event.args
      definitions s := by
  refine h.imp fun d e ⟨hname, hread⟩ ↦ ⟨hname, ?_⟩
  obtain ⟨_, args, _, hargs, hread, hnotes⟩ := Traced.bind_eq_ok.mp hread
  obtain ⟨desc, _, hread⟩ := Traced.ofExcept_bind_eq_ok.mp hread
  obtain ⟨rfl, hevent⟩ := Traced.pure_eq_ok.mp hread
  rw [hnotes, ← hevent, List.append_nil]
  exact dataArguments_itemized hargs

/-- The types of a marked-up document have no diagnostics. -/
theorem treeTypes_diagnostics {definitions : List (Text × Tree)} {s : Section TypeNote}
    (h : ReadBy treeType definitions s) : s.diagnostics = [] := by
  refine List.eq_nil_iff_forall_not_mem.mpr ?_
  refine forall_diagnostics h fun d e ⟨_, hread⟩ x hx ↦ ?_
  rw [(Traced.pure_eq_ok.mp hread).1] at hx
  cases hx

/-- The sections of a marked-up document one after the other. -/
theorem ofTree_eq_ok {effects : EffectTable} {root : Tree} {notes : List Note} {c : Catalogue}
    (h : ofTree effects root = ⟨notes, .ok c⟩) :
    ∃ (fs : Section Catalogue.Function) (cs : Section Catalogue.Constant)
      (es : Section Catalogue.Event) (ts : Section TypeNote),
      ReadBy (treeFunction effects) (treeDefinitions root "functions") fs ∧
      ReadBy treeConstant ((treeDefinitions root "constants").filter
        fun e ↦ !skippedConstants.contains e.1) cs ∧
      ReadBy treeEvent (treeDefinitions root "events") es ∧
      ReadBy treeType (treeDefinitions root "types") ts ∧
      c = ⟨fs.entries, cs.entries, es.entries, ts.entries⟩ ∧
      diagnosticsIn notes = fs.diagnostics ++ (cs.diagnostics ++ es.diagnostics) := by
  obtain ⟨_, fs, _, hfunctions, h, hnotes⟩ := Traced.bind_eq_ok.mp h
  obtain ⟨_, cs, _, hconstants, h, hnotes'⟩ := Traced.bind_eq_ok.mp h
  obtain ⟨_, es, _, hevents, h, hnotes''⟩ := Traced.bind_eq_ok.mp h
  obtain ⟨_, ts, _, htypes, h, hnotes'''⟩ := Traced.bind_eq_ok.mp h
  obtain ⟨rfl, rfl⟩ := Traced.pure_eq_ok.mp h
  obtain ⟨fs, hfs, rfl, hfunctionNotes⟩ := treeSection_eq_ok hfunctions
  obtain ⟨cs, hcs, rfl, hconstantNotes⟩ := treeSection_eq_ok hconstants
  obtain ⟨es, hes, rfl, heventNotes⟩ := treeSection_eq_ok hevents
  obtain ⟨ts, hts, rfl, htypeNotes⟩ := treeSection_eq_ok htypes
  refine ⟨fs, cs, es, ts, hfs, hcs, hes, hts, rfl, ?_⟩
  simp [hnotes, hnotes', hnotes'', hnotes''', hfunctionNotes, hconstantNotes, heventNotes,
    htypeNotes, treeTypes_diagnostics hts]

/-- The sections of an indented document one after the other. -/
theorem ofData_eq_ok {effects : EffectTable} {data : Fields} {notes : List Note} {c : Catalogue}
    (h : ofData effects data = ⟨notes, .ok c⟩) :
    ∃ functions constants events, dataSection data "functions" = .ok functions ∧
      dataSection data "constants" = .ok constants ∧ dataSection data "events" = .ok events ∧
      ∃ (fs : Section Catalogue.Function) (cs : Section Catalogue.Constant)
        (es : Section Catalogue.Event),
        ReadBy (dataFunction effects) functions fs ∧ ReadBy dataConstant constants cs ∧
        ReadBy dataEvent events es ∧
        c = ⟨fs.entries, cs.entries, es.entries, describedTypes⟩ ∧
        diagnosticsIn notes = fs.diagnostics ++ (cs.diagnostics ++ es.diagnostics) := by
  obtain ⟨_, fs, _, hfunctions, h, hnotes⟩ := Traced.bind_eq_ok.mp h
  obtain ⟨_, cs, _, hconstants, h, hnotes'⟩ := Traced.bind_eq_ok.mp h
  obtain ⟨_, es, _, hevents, h, hnotes''⟩ := Traced.bind_eq_ok.mp h
  obtain ⟨rfl, rfl⟩ := Traced.pure_eq_ok.mp h
  obtain ⟨functions, hfsection, fs, hfs, rfl, hfunctionNotes⟩ := dataTable_eq_ok hfunctions
  obtain ⟨constants, hcsection, cs, hcs, rfl, hconstantNotes⟩ := dataTable_eq_ok hconstants
  obtain ⟨events, hesection, es, hes, rfl, heventNotes⟩ := dataTable_eq_ok hevents
  refine ⟨functions, constants, events, hfsection, hcsection, hesection, fs, cs, es, hfs, hcs, hes,
    rfl, ?_⟩
  simp [hnotes, hnotes', hnotes'', hfunctionNotes, hconstantNotes, heventNotes]

theorem ofTree_accounted {effects : EffectTable} {root : Tree} {notes : List Note} {c : Catalogue}
    (h : ofTree effects root = ⟨notes, .ok c⟩) :
    ArgumentsAccounted treeItem (fun d as ↦ as = treeArgumentItems d)
      (treeDefinitions root "functions") (treeDefinitions root "events") notes c := by
  obtain ⟨fs, cs, es, _, hfs, hcs, hes, _, rfl, hnotes⟩ := ofTree_eq_ok h
  refine ⟨fs, cs.diagnostics, es, rfl, rfl, ?_, ?_, treeFunctions_accounted hfs,
    treeEvents_accounted hes⟩
  · rw [hnotes, List.append_assoc]
  · exact forall_diagnostics hcs fun d e he ↦ treeConstant_code he.2

theorem ofData_accounted {effects : EffectTable} {data : Fields} {notes : List Note} {c : Catalogue}
    (h : ofData effects data = ⟨notes, .ok c⟩) :
    ∃ functions events, dataSection data "functions" = .ok functions ∧
      dataSection data "events" = .ok events ∧
      ArgumentsAccounted dataItem (fun fields as ↦ itemsOf (fields.get "arguments") = .ok as)
        functions events notes c := by
  obtain ⟨functions, _, events, hfsection, _, hesection, fs, cs, es, hfs, hcs, hes, rfl, hnotes⟩ :=
    ofData_eq_ok h
  refine ⟨functions, events, hfsection, hesection, fs, cs.diagnostics, es, rfl, rfl, ?_, ?_,
    dataFunctions_accounted hfs, dataEvents_accounted hes⟩
  · rw [hnotes, List.append_assoc]
  · exact forall_diagnostics hcs fun d e he ↦ dataConstant_code he.2

/-- Every item among the arguments of a function or an event becomes one argument or one diagnostic
on the entry, in the order of the items, whatever a document holds, unless it is passed over.
Nothing is passed over in indented documents, and in marked-up documents only what is no map. The
diagnostics of the whole extraction are those on the entries one after the other. -/
theorem extraction_accounts_for_arguments (effects : EffectTable) :
    (∀ root notes c, ofTree effects root = ⟨notes, .ok c⟩ →
      ArgumentsAccounted treeItem (fun d as ↦ as = treeArgumentItems d)
        (treeDefinitions root "functions") (treeDefinitions root "events") notes c) ∧
    (∀ data notes c, ofData effects data = ⟨notes, .ok c⟩ →
      ∃ functions events, dataSection data "functions" = .ok functions ∧
        dataSection data "events" = .ok events ∧
        ArgumentsAccounted dataItem (fun fields as ↦ itemsOf (fields.get "arguments") = .ok as)
          functions events notes c) :=
  ⟨fun _ _ _ ↦ ofTree_accounted, fun _ _ _ ↦ ofData_accounted⟩

/-- An element without children. -/
def leaf (tag text : Text) : Tree := .mk .element tag text true [] []

/-- A map with one entry. -/
def mapOf (key : Text) (value : Tree) : Tree :=
  .mk .map mapTag [] true [leaf keyTag key, value] [(key, 1)]

/-- A document with one function, whose arguments are an array with one item that is no map. -/
def passedOverRoot : Tree :=
  let items := Tree.mk .element "array" [] true [leaf "string" "x"] []
  mapOf "functions" (mapOf "llFoo" (mapOf "arguments" items))

/-- In marked-up documents an item can become neither an argument nor a diagnostic. -/
theorem ofTree_passes_over :
    ¬ ∀ root notes c, ofTree [] root = ⟨notes, .ok c⟩ → ∀ name f definition,
      (name, f) ∈ c.functions → (name, definition) ∈ treeDefinitions root "functions" →
      f.args.length + ((diagnosticsIn notes).filter fun d ↦
        d.code = malformedArgument.code ∧ d.subject = some name).length =
          (treeArgumentItems definition).length := by
  intro h
  have hlengths := h passedOverRoot _ _ rfl "llFoo" _ _ List.mem_cons_self List.mem_cons_self
  exact absurd hlengths (by decide)

end Keywords

end ScriptDefs
