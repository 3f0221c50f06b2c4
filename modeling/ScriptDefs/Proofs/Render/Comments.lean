import ScriptDefs.Proofs.Data.Merged
import ScriptDefs.Proofs.Data.Related
import ScriptDefs.Proofs.Render.Declarations
import ScriptDefs.Proofs.Text.Annotated
import ScriptDefs.Proofs.Types.Undescribed

/-!
# Descriptions in declarations

Descriptions come into the declarations of a document as comments only. Beside the declarations of the
same document without descriptions, every line is the same line, or the same line with a comment after
it, whatever the descriptions are.
-/

namespace ScriptDefs

open Text (Annotated EndAlike)

namespace Render

/-! ## Lines -/

/-- A comment ends like the one of an empty description, which is nothing. -/
theorem comment_endAlike {desc : Datum} (h : desc.IsText) :
    SameOutcome EndAlike (comment desc) (comment (.text [])) := by
  obtain ⟨t, rfl⟩ := Datum.isText_iff.mp h
  have hempty : comment (.text []) = .ok [] := rfl
  rw [hempty, comment]
  split
  · exact .ok (.comment (Text.notMem_replaceAll (by decide) t))
  · exact .ok (Annotated.refl _)

/-- A line that ends in a comment. -/
theorem line_annotated (x : Except RenderError Text) (line : Text → Text) {desc : Datum}
    (h : desc.IsText) :
    SameOutcome Annotated (do return line (← x) ++ (← comment desc) ++ [.scalar '\n'])
      (do return line (← x) ++ (← comment (.text [])) ++ [.scalar '\n']) := by
  refine .bind_same x fun t _ ↦ ?_
  exact (comment_endAlike h).bind fun _ _ hcomment ↦ .ok (hcomment.append_left (line t))

/-- A line that ends in a comma and a comment. -/
theorem line_endAlike (x : Except RenderError Text) (line : Text → Text) {desc : Datum}
    (h : desc.IsText) :
    SameOutcome EndAlike (do return line (← x) ++ .scalar ',' :: (← comment desc))
      (do return line (← x) ++ .scalar ',' :: (← comment (.text []))) := by
  refine .bind_same x fun t _ ↦ ?_
  refine (comment_endAlike h).bind fun _ _ hcomment ↦ .ok ?_
  exact (hcomment.append_left [.scalar ',']).append_left (line t)

/-! ## Printed parts -/

theorem overloads_withoutDescs (f : Function) : overloads f.withoutDescs = overloads f := by
  simp only [overloads, Function.withoutDescs, List.mapM_map, Function.comp_def,
    Signature.format_withoutDescs]

theorem declaredSignature_withoutDescs (s : Signature) :
    declaredSignature s.withoutDescs = declaredSignature s := by
  obtain ⟨args, results⟩ := s
  simp only [declaredSignature, Signature.withoutDescs, Signature.args, Signature.results,
    Variable.formatList_withoutDescs]

theorem aliasLine_withoutDescs (a : Alias) : aliasLine a.withoutDescs = aliasLine a := by
  simp only [aliasLine, Alias.withoutDescs, BaseType.formatUnion_withoutDescs]

theorem aliases_withoutDescs (types : Assoc Text Alias) :
    aliases (types.mapValues Alias.withoutDescs) = aliases types := by
  simp only [aliases, Assoc.values_mapValues, List.mapM_map, Function.comp_def,
    aliasLine_withoutDescs]

/-! ## Classes -/

theorem classProperty_annotated {c : Constant} (h : c.WellFormed Datum.IsText) :
    SameOutcome Annotated (classProperty c) (classProperty c.withoutDescs) := by
  rw [classProperty, classProperty, Constant.withoutDescs, BaseType.format_withoutDescs]
  exact line_annotated _ (fun type ↦ indent 1 ++ c.name ++ Text.ofString " : " ++ type) h.desc

theorem classFunction_annotated {f : Function} (h : f.WellFormed Datum.IsText) :
    SameOutcome Annotated (classFunction f) (classFunction f.withoutDescs) := by
  simp only [classFunction, Function.withoutDescs, List.mapM_map, Function.comp_def,
    declaredSignature_withoutDescs]
  refine (SameOutcome.mapM fun s _ ↦ ?_).bind fun _ _ hlines ↦ .ok (.concat hlines)
  exact line_annotated _ (indent 1 ++ Text.ofString "function " ++ f.name ++ ·) h.desc

/-- Values and their forms without descriptions, in turn. -/
theorem mapM_values_annotated {α : Type} {m : Assoc Text α} {withoutDescs : α → α}
    {print : α → Except RenderError Text}
    (h : ∀ e ∈ m, SameOutcome Annotated (print e.2) (print (withoutDescs e.2))) :
    SameOutcome (List.Forall₂ Annotated) (m.values.mapM print)
      ((m.mapValues withoutDescs).values.mapM print) := by
  rw [Assoc.values_mapValues, List.mapM_map]
  exact .mapM (List.forall_mem_map.mpr h)

theorem valueClass_annotated {c : ValueClass} (h : c.WellFormed Datum.IsText) :
    SameOutcome Annotated (valueClass c) (valueClass c.withoutDescs) := by
  have hprops := mapM_values_annotated fun e he ↦ classProperty_annotated (h.props e he)
  have hfuncs := mapM_values_annotated fun e he ↦ classFunction_annotated (h.funcs e he)
  refine hprops.bind fun _ _ hprops ↦ hfuncs.bind fun _ _ hfuncs ↦ .ok ?_
  have hhead := Annotated.cons (.scalar '\n') (.concat hprops)
  exact ((hhead.append_left (Text.ofString "declare class " ++ c.name)).append
    (.concat hfuncs)).append (.refl _)

theorem classes_annotated {cs : Assoc Text ValueClass}
    (h : ∀ e ∈ cs, e.2.WellFormed Datum.IsText) :
    SameOutcome Annotated (classes cs) (classes (cs.mapValues ValueClass.withoutDescs)) :=
  (mapM_values_annotated fun e he ↦ valueClass_annotated (h e he)).bind
    fun _ _ hs ↦ .ok (.concat hs)

/-! ## Tables -/

mutual

theorem tableBody_annotated : ∀ (t : Table) (depth : Nat), t.WellFormed Datum.IsText →
    SameOutcome Annotated (tableBody depth t) (tableBody depth t.withoutDescs)
  | .mk name props, depth, h => by
    have hlines := propertyLines_endAlike props (depth + 1) h
    rw [Table.withoutDescs, Table.allWithoutDescs_eq_mapValues, tableBody_eq, tableBody_eq,
      Assoc.mapValues, Assoc.sorted_map, List.mapM_map]
    refine (SameOutcome.mapM fun e he ↦ hlines e (Assoc.mem_sorted.mp he)).bind fun _ _ hs ↦ .ok ?_
    exact (((EndAlike.joinWith hs).append_left _).append_cons _).append (.refl _)

theorem propertyLines_endAlike : ∀ (props : List (Text × Property)) (depth : Nat),
    Table.AllWellFormed Datum.IsText props → ∀ e ∈ props,
    SameOutcome EndAlike (propertyLine depth e.1 e.2) (propertyLine depth e.1 e.2.withoutDescs)
  | [], _, _ => List.forall_mem_nil _
  | (key, p) :: rest, depth, h =>
    List.forall_mem_cons.mpr
      ⟨propertyLine_endAlike p depth key h.1, propertyLines_endAlike rest depth h.2⟩

theorem propertyLine_endAlike : ∀ (p : Property) (depth : Nat) (key : Text),
    p.WellFormed Datum.IsText →
    SameOutcome EndAlike (propertyLine depth key p) (propertyLine depth key p.withoutDescs)
  | .constant c, depth, key, h => by
    rw [Property.withoutDescs, propertyLine, propertyLine, Constant.withoutDescs,
      BaseType.format_withoutDescs]
    exact line_endAlike _ (indent depth ++ key ++ Text.ofString ": " ++ ·) h.desc
  | .function f, depth, key, h => by
    rw [Property.withoutDescs, propertyLine, propertyLine, overloads_withoutDescs]
    exact line_endAlike _ (indent depth ++ key ++ Text.ofString ": " ++ ·) h.desc
  | .table t, depth, key, h => by
    rw [Property.withoutDescs, propertyLine, propertyLine]
    exact (tableBody_annotated t depth h).bind fun _ _ hbody ↦
      .ok ((hbody.append_left _).append (.refl _)).endAlike
  | .valueClass c, _, _, _ => .ok (Annotated.refl _)

end

/-! ## The global table -/

theorem globalProperty_annotated (key : Text) {p : Property} (h : p.WellFormed Datum.IsText) :
    SameOutcome Annotated (globalProperty key p) (globalProperty key p.withoutDescs) := by
  cases p with
  | constant c =>
    rw [Property.withoutDescs, globalProperty, globalProperty, Constant.withoutDescs,
      BaseType.format_withoutDescs]
    exact line_annotated _ (Text.ofString "declare " ++ c.name ++ Text.ofString " : " ++ ·) h.desc
  | function f =>
    have hoverloads := line_annotated (overloads f)
      (Text.ofString "declare " ++ f.name ++ Text.ofString ": " ++ ·) h.desc
    have hsignatures : f.withoutDescs.signatures = f.signatures.map Signature.withoutDescs := rfl
    rw [Property.withoutDescs, globalProperty, globalProperty, hsignatures, overloads_withoutDescs]
    -- a function with one signature is declared in another way
    rcases f.signatures with _ | ⟨s, _ | ⟨s', rest⟩⟩
    · exact hoverloads
    · rw [List.map_singleton]
      dsimp only
      rw [declaredSignature_withoutDescs]
      exact line_annotated _ (Text.ofString "declare function " ++ f.name ++ ·) h.desc
    · exact hoverloads
  | table t =>
    simp only [Property.withoutDescs, globalProperty]
    refine (tableBody_annotated t 0 h).bind fun _ _ hbody ↦ .ok ?_
    obtain ⟨name, props⟩ := t
    exact (hbody.append_left _).append (.refl _)
  | valueClass c => exact .ok (.refl _)

theorem globals_annotated {props : Assoc Text Property}
    (h : ∀ e ∈ props, e.2.WellFormed Datum.IsText) :
    SameOutcome Annotated (globals props) (globals (props.mapValues Property.withoutDescs)) := by
  rw [globals, globals, Assoc.mapValues, List.mapM_map]
  exact (SameOutcome.mapM fun e he ↦ globalProperty_annotated e.1 (h e he)).bind
    fun _ _ hs ↦ .ok (.concat hs)

end Render

namespace Document

/-- The declarations of a document and of the same document without descriptions. -/
theorem declarations_withoutDescs {d : Document} (h : d.WellFormed Datum.IsText) :
    SameOutcome Annotated d.declarations d.withoutDescs.declarations := by
  have hclasses := Render.classes_annotated h.classes
  have hglobals := Render.globals_annotated (Table.wellFormed_iff.mp h.globalTable)
  rw [declarations, declarations, withoutDescs, Render.aliases_withoutDescs,
    Table.props_withoutDescs]
  refine .bind_same _ fun aliases _ ↦ ?_
  refine hclasses.bind fun classes classes₀ hclasses ↦ ?_
  refine hglobals.bind fun globals globals₀ hglobals ↦ .ok ?_
  have hstart := hclasses.append_left (Render.header ++ aliases ++ Text.ofString "\n\n")
  exact (hstart.append (.refl _)).append hglobals

/-- Whatever the descriptions of a document are, its declarations are those of the document without
descriptions, line by line, with a comment or nothing after each line. With or without descriptions there
are none if a declared type shows an integer with too many digits. -/
theorem declarations_commented {d : Document} (h : d.WellFormed Datum.IsText) :
    (d.IsDeclarable →
      ∃ text bare, d.declarations = .ok text ∧ d.withoutDescs.declarations = .ok bare ∧
        List.Forall₂ Text.Commented (text.splitOn (.scalar '\n')) (bare.splitOn (.scalar '\n'))) ∧
    (¬d.IsDeclarable →
      d.declarations = .error (.format (.digitLimit .writing)) ∧
        d.withoutDescs.declarations = .error (.format (.digitLimit .writing))) := by
  have hdeclares := declarations_declares h
  have hsame := declarations_withoutDescs h
  constructor
  · intro hd
    obtain ⟨text, htext⟩ := (hdeclares.hasResult_iff.mpr hd).exists_ok
    rw [htext] at hsame
    generalize hbare : d.withoutDescs.declarations = x at hsame
    cases hsame with
    | ok hannotated => exact ⟨text, _, htext, rfl, hannotated.lines⟩
  · intro hd
    have herror := hdeclares.eq_error hd
    exact ⟨herror, (hsame.error_iff _).mp herror⟩

end Document

namespace Noted

/-- A description that would end a table and declare a name if it were not a comment. -/
def desc : Text := "the ratio\n\x7d\ndeclare hidden: any -- ]]"

/-- A constant with this description. -/
def constant : Constant where
  name := "PI"
  desc := .text desc
  type := .simple .number

/-- A document with the constant in a table, in a class and on its own. -/
def document : Document where
  globalTable := .mk "SLua"
    [("math", .table (.mk "math" [("PI", .constant constant)])), ("PI", .constant constant)]
  types := []
  classes := [("circle", { name := "circle", funcs := [], props := [("PI", constant)] })]
  events := []

theorem wellFormed_constant : constant.WellFormed Datum.IsText := ⟨trivial, trivial, trivial⟩

theorem wellFormed_document : document.WellFormed Datum.IsText where
  globalTable := ⟨⟨wellFormed_constant, trivial⟩, wellFormed_constant, trivial⟩
  types := List.forall_mem_nil _
  classes := by
    rw [document, List.forall_mem_singleton]
    exact ⟨List.forall_mem_nil _, List.forall_mem_singleton.mpr wellFormed_constant⟩
  events := List.forall_mem_nil _

end Noted

theorem Noted.isDeclarable_document : Noted.document.IsDeclarable where
  globalTable := ⟨⟨trivial, trivial⟩, trivial, trivial⟩
  types := List.forall_mem_nil _
  classes := by
    rw [document, List.forall_mem_singleton]
    exact ⟨List.forall_mem_singleton.mpr trivial, List.forall_mem_nil _⟩

theorem Document.declarations_commented_noted : Noted.document.WellFormed Datum.IsText ∧
    ∃ text bare, Noted.document.declarations = .ok text ∧
      Noted.document.withoutDescs.declarations = .ok bare ∧
      List.Forall₂ Text.Commented (text.splitOn (.scalar '\n')) (bare.splitOn (.scalar '\n')) :=
  ⟨Noted.wellFormed_document,
    (Document.declarations_commented Noted.wellFormed_document).1 Noted.isDeclarable_document⟩

example : Render.propertyLine 1 "PI" (.constant Noted.constant) =
    .ok (Text.ofString "  PI: number, -- the ratio \x7d declare hidden: any -- ]]") := by
  rfl

namespace Overlong

/-- A document with a constant whose type is an integer with too many digits. -/
def document : Document where
  globalTable := .mk "SLua"
    [("BIG", .constant { name := "BIG", desc := .text [], type := .literal (.int DigitLimit.overlong) })]
  types := []
  classes := []
  events := []

theorem wellFormed_document : document.WellFormed Datum.IsText where
  globalTable := ⟨⟨trivial, trivial, trivial⟩, trivial⟩
  types := List.forall_mem_nil _
  classes := List.forall_mem_nil _
  events := List.forall_mem_nil _

theorem not_isDeclarable_document : ¬document.IsDeclarable :=
  fun h ↦ Scalar.overlong_not_isWritable h.globalTable.1

end Overlong

/-- Not every document has declarations to compare, whatever its descriptions are. -/
theorem Document.declarations_refuse_integer :
    ¬∀ d : Document, d.WellFormed Datum.IsText →
      ∃ text bare, d.declarations = .ok text ∧ d.withoutDescs.declarations = .ok bare ∧
        List.Forall₂ Text.Commented (text.splitOn (.scalar '\n')) (bare.splitOn (.scalar '\n')) := by
  intro h
  obtain ⟨text, _, htext, -⟩ := h Overlong.document Overlong.wellFormed_document
  have herror := (declarations_declares Overlong.wellFormed_document).eq_error
    Overlong.not_isDeclarable_document
  rw [herror] at htext
  cases htext

end ScriptDefs
