import ScriptDefs.Proofs.Data.Merged
import ScriptDefs.Proofs.Types.Printing
import ScriptDefs.Render.Declarations

/-!
# Declarations of well-formed documents

A document whose descriptions and variable names are texts has declarations exactly if no literal in a
declared type is an integer with too many digits.
-/

namespace ScriptDefs

namespace Render

/-- What is known of whether a part of the declarations can be rendered: it can unless an integer has too
many digits. -/
abbrev DeclaresUnless {α : Type} (writable : Prop) (x : Except RenderError α) : Prop :=
  SucceedsIff writable (.format (.digitLimit .writing)) (fun _ ↦ True) x

theorem ofFormat_declares {α : Type} {Q : α → Prop} {writable : Prop} {x : Except FormatError α}
    (h : PrintsUnless Q writable x) : DeclaresUnless writable (ofFormat x) :=
  (h.imp fun _ _ ↦ trivial).mapError _

namespace DeclaresUnless

variable {α β γ : Type} {p q : Prop} {x : Except RenderError α} {y : Except RenderError β}

theorem map (hx : DeclaresUnless p x) (f : α → β) : DeclaresUnless p (do return f (← x)) :=
  hx.returns fun _ _ ↦ trivial

/-- Two parts that are rendered one after the other. -/
theorem both (hx : DeclaresUnless p x) (hy : DeclaresUnless q y) (f : α → β → γ) :
    DeclaresUnless (p ∧ q) (do return f (← x) (← y)) :=
  hx.bind fun _ _ ↦ hy.map _

/-- A list of parts, rendered one by one. -/
theorem mapM {P : α → Prop} {as : List α} {f : α → Except RenderError β}
    (h : ∀ a ∈ as, DeclaresUnless (P a) (f a)) : DeclaresUnless (∀ a ∈ as, P a) (as.mapM f) :=
  (SucceedsIff.mapM h).imp fun _ _ ↦ trivial

end DeclaresUnless

theorem comment_succeeds {desc : Datum} (h : desc.IsText) :
    HasResult (comment desc) := by
  obtain ⟨t, rfl⟩ := Datum.isText_iff.mp h
  rw [comment]
  split <;> exact .ok trivial

/-- A comment after what is declared does not fail. -/
theorem declares_commented {α β : Type} {writable : Prop} {x : Except RenderError α}
    (hx : DeclaresUnless writable x) {desc : Datum} (h : desc.IsText) (line : α → Text → β) :
    DeclaresUnless writable (do
      let a ← x
      return line a (← comment desc)) :=
  hx.bind_succeeds fun _ _ ↦ (comment_succeeds h).bind fun _ _ ↦ .ok trivial

theorem overloads_declares {f : Function} (h : f.WellFormed Datum.IsText) :
    DeclaresUnless f.IsWritable (overloads f) := by
  have hformat := SucceedsIff.mapM fun s hs ↦
    Signature.format_prints s arrow false (h.signatures s hs)
  rw [overloads]
  refine (ofFormat_declares hformat).bind_succeeds fun many _ ↦ ?_
  split <;> exact .ok trivial

theorem declaredSignature_declares {s : Signature} (h : s.WellFormed Datum.IsText) :
    DeclaresUnless s.IsWritable (declaredSignature s) := by
  obtain ⟨args, results⟩ := s
  have hargs := ofFormat_declares (Variable.formatList_prints false h.1)
  exact hargs.both (ofFormat_declares (Variable.formatList_prints false h.2)) _

/-- The values of a map, rendered one by one. -/
theorem mapM_values_declares {α : Type} (P : α → Prop) {m : Assoc Text α}
    {line : α → Except RenderError Text} (h : ∀ e ∈ m, DeclaresUnless (P e.2) (line e.2)) :
    DeclaresUnless (∀ e ∈ m, P e.2) (m.values.mapM line) := by
  have hvalues : (∀ a ∈ m.values, P a) ↔ ∀ e ∈ m, P e.2 := List.forall_mem_map
  exact (DeclaresUnless.mapM (List.forall_mem_map.mpr h)).congr hvalues

theorem aliases_declares {types : Assoc Text Alias}
    (h : ∀ e ∈ types, e.2.WellFormed Datum.IsText) :
    DeclaresUnless (∀ e ∈ types, BaseType.AllWritable e.2.types) (aliases types) := by
  refine (mapM_values_declares (fun a : Alias ↦ BaseType.AllWritable a.types) fun e he ↦ ?_).map _
  exact (ofFormat_declares (BaseType.formatUnion_prints (h e he).types)).map _

/-! ## Classes -/

theorem classProperty_declares {c : Constant} (h : c.WellFormed Datum.IsText) :
    DeclaresUnless c.type.IsWritable (classProperty c) :=
  declares_commented (ofFormat_declares (c.type.format_prints h.type)) h.desc _

theorem classFunction_declares {f : Function} (h : f.WellFormed Datum.IsText) :
    DeclaresUnless f.IsWritable (classFunction f) := by
  rw [classFunction]
  refine (DeclaresUnless.mapM fun s hs ↦ ?_).map _
  exact declares_commented (declaredSignature_declares (h.signatures s hs)) h.desc _

theorem valueClass_declares {c : ValueClass} (h : c.WellFormed Datum.IsText) :
    DeclaresUnless c.IsWritable (valueClass c) := by
  have hprops := mapM_values_declares (fun c ↦ c.type.IsWritable)
    fun e he ↦ classProperty_declares (h.props e he)
  have hfuncs := mapM_values_declares Function.IsWritable
    fun e he ↦ classFunction_declares (h.funcs e he)
  exact (hprops.both hfuncs _).congr ⟨fun hc ↦ ⟨hc.1, hc.2⟩, fun hc ↦ ⟨hc.props, hc.funcs⟩⟩

theorem classes_declares {cs : Assoc Text ValueClass}
    (h : ∀ e ∈ cs, e.2.WellFormed Datum.IsText) :
    DeclaresUnless (∀ e ∈ cs, e.2.IsWritable) (classes cs) :=
  (mapM_values_declares ValueClass.IsWritable fun e he ↦ valueClass_declares (h e he)).map _

/-! ## Tables -/

theorem propertyLines_eq_map (depth : Nat) (props : List (Text × Property)) :
    propertyLines depth props = props.map fun e ↦ (e.1, propertyLine depth e.1 e.2) := by
  induction props with
  | nil => rfl
  | cons e props ih =>
    rw [propertyLines, ih]
    rfl

/-- The lines of a table, made in the order of its keys. -/
theorem tableBody_eq (depth : Nat) (name : Text) (props : List (Text × Property)) :
    tableBody depth (.mk name props) = do
      let lines ← (Assoc.sorted props).mapM fun e ↦ propertyLine (depth + 1) e.1 e.2
      return Text.ofString "\x7b\n" ++ Text.joinWith "\n" lines ++ .scalar '\n' :: indent depth ++
        [.scalar '\x7d'] := by
  rw [tableBody, propertyLines_eq_map, Assoc.sorted_map, List.mapM_map]
  rfl

mutual

theorem tableBody_declares : ∀ (t : Table) (depth : Nat), t.WellFormed Datum.IsText →
    DeclaresUnless t.IsWritable (tableBody depth t)
  | .mk name props, depth, h => by
    have hlines := propertyLines_declares props (depth + 1) h
    have hsorted : (∀ e ∈ Assoc.sorted props, e.2.IsWritable) ↔ (Table.mk name props).IsWritable := by
      rw [Table.isWritable_iff]
      exact forall_congr' fun e ↦ imp_congr_left Assoc.mem_sorted
    rw [tableBody_eq]
    refine ((DeclaresUnless.mapM fun e he ↦ ?_).map _).congr hsorted
    exact hlines e (Assoc.mem_sorted.mp he)

theorem propertyLines_declares : ∀ (props : List (Text × Property)) (depth : Nat),
    Table.AllWellFormed Datum.IsText props →
    ∀ e ∈ props, DeclaresUnless e.2.IsWritable (propertyLine depth e.1 e.2)
  | [], _, _ => List.forall_mem_nil _
  | (key, p) :: rest, depth, h =>
    List.forall_mem_cons.mpr
      ⟨propertyLine_declares p depth key h.1, propertyLines_declares rest depth h.2⟩

theorem propertyLine_declares : ∀ (p : Property) (depth : Nat) (key : Text),
    p.WellFormed Datum.IsText → DeclaresUnless p.IsWritable (propertyLine depth key p)
  | .constant c, _, _, h =>
    declares_commented (ofFormat_declares (c.type.format_prints h.type)) h.desc _
  | .function _, _, _, h => declares_commented (overloads_declares h) h.desc _
  | .table t, depth, _, h => (tableBody_declares t depth h).map _
  | .valueClass _, _, _, _ => .ok ⟨trivial, trivial⟩

end

theorem globalProperty_declares (key : Text) {p : Property} (h : p.WellFormed Datum.IsText) :
    DeclaresUnless p.IsWritable (globalProperty key p) := by
  cases p with
  | constant c =>
    exact declares_commented (ofFormat_declares (c.type.format_prints h.type)) h.desc _
  | function f =>
    rw [globalProperty]
    split
    · next s hs =>
      have hone : s.IsWritable ↔ f.IsWritable := by simp [Function.IsWritable, hs]
      have hsignature := declaredSignature_declares (h.signatures s (by simp [hs]))
      exact (declares_commented hsignature h.desc _).congr hone
    · exact declares_commented (overloads_declares h) h.desc _
  | table t => exact (tableBody_declares t 0 h).map _
  | valueClass c => exact .ok ⟨trivial, trivial⟩

end Render

/-- A document whose descriptions and variable names are texts has declarations, unless a declared type
shows an integer with too many digits. -/
theorem Document.declarations_declares {d : Document} (h : d.WellFormed Datum.IsText) :
    Render.DeclaresUnless d.IsDeclarable d.declarations := by
  have htable : ∀ e ∈ d.globalTable.props,
      Render.DeclaresUnless e.2.IsWritable (Render.globalProperty e.1 e.2) :=
    fun e he ↦ Render.globalProperty_declares e.1 (Table.wellFormed_iff.mp h.globalTable e he)
  have hglobals : Render.DeclaresUnless d.globalTable.IsWritable
      (Render.globals d.globalTable.props) :=
    ((Render.DeclaresUnless.mapM htable).map _).congr Table.isWritable_iff.symm
  have hclasses := Render.classes_declares h.classes
  refine ((Render.aliases_declares h.types).bind fun _ _ ↦ hclasses.both hglobals _).congr ?_
  exact ⟨fun hd ↦ ⟨hd.2.2, hd.1, hd.2.1⟩, fun hd ↦ ⟨hd.types, hd.classes, hd.globalTable⟩⟩

end ScriptDefs
