import ScriptDefs.Proofs.Data.Assoc
import ScriptDefs.Proofs.Data.JsonForm
import ScriptDefs.Proofs.Render.Declarations
import ScriptDefs.Proofs.Types.Accepted
import ScriptDefs.Proofs.Types.RoundTrip
import ScriptDefs.Render.Output

/-!
# Outputs of accepted documents

A document that is read from JSON data has a plain form that can be written again. All other outputs
need its descriptions and variable names to be texts, which reading does not check. The
documentation also needs names that can be encoded.
-/

namespace ScriptDefs

/-- Texts can be encoded. -/
def Scalar.IsEncodable : Scalar → Prop
  | .text t => t.isEncodable = true
  | _ => True

/-- Scalars with a JSON form that can be encoded. -/
def Scalar.IsPrintable (s : Scalar) : Prop := s.HasJsonForm ∧ s.IsEncodable

theorem Scalar.hasJsonForm_text (t : Text) : (Scalar.text t).HasJsonForm :=
  ⟨rfl, by simp [Scalar.kind]⟩

namespace Datum

theorem hasJsonForm_text (t : Text) : (text t).HasJsonForm := .scalar (Scalar.hasJsonForm_text t)

theorem IsText.hasJsonForm {d : Datum} (h : d.IsText) : d.HasJsonForm := by
  obtain ⟨t, rfl⟩ := isText_iff.mp h
  exact hasJsonForm_text t

theorem BuiltOf.and {P Q : Scalar → Prop} {d : Datum} (hP : d.BuiltOf P) (hQ : d.BuiltOf Q) :
    d.BuiltOf fun s ↦ P s ∧ Q s := by
  induction hP with
  | scalar h => exact .scalar ⟨h, builtOf_scalar.mp hQ⟩
  | list _ ih =>
    cases hQ with
    | list hQ => exact .list fun d hd ↦ ih d hd (hQ d hd)
  | map hkeys _ ih =>
    cases hQ with
    | map hkeysQ hQ =>
      exact .map (fun e he ↦ ⟨hkeys e he, hkeysQ e he⟩) fun e he ↦ ih e he (hQ e he)

theorem inherited_isPrintable : Inherited (BuiltOf Scalar.IsPrintable) :=
  inherited_builtOf ⟨⟨rfl, by simp [Scalar.kind]⟩, trivial⟩
    (fun _ ↦ ⟨⟨rfl, by simp [Scalar.kind]⟩, trivial⟩)
    fun s ↦ ⟨Scalar.hasJsonForm_text _, Text.isEncodable_ofString s⟩

theorem BuiltOf.isEncodable {t : Text} (h : BuiltOf Scalar.IsPrintable (.text t)) :
    t.isEncodable = true :=
  (builtOf_scalar.mp h).2

end Datum

theorem Text.isEncodable_joinWith {separator : Text} (hs : separator.isEncodable = true)
    {parts : List Text} (h : ∀ t ∈ parts, t.isEncodable = true) :
    (joinWith separator parts).isEncodable = true := by
  match parts with
  | [] => rfl
  | [t] => simpa [joinWith] using h
  | t :: next :: rest =>
    have hjoin : joinWith separator (t :: next :: rest) =
        t ++ (separator ++ joinWith separator (next :: rest)) := rfl
    obtain ⟨ht, hrest⟩ := List.forall_mem_cons.mp h
    simp [hjoin, ht, hs, isEncodable_joinWith hs hrest]

theorem Function.isEncodable_qualifiedName {f : Function} (hf : f.name.isEncodable = true)
    {tables : List Text} (h : ∀ t ∈ tables, t.isEncodable = true) :
    (f.qualifiedName tables).isEncodable = true := by
  rw [qualifiedName]
  split
  · exact hf
  · simp [Text.isEncodable_joinWith (Text.isEncodable_ofString ".") h, hf]

namespace Render

theorem json_hasResult {d : Datum} (h : d.HasJsonForm) : HasResult (json d) :=
  (Json.print_succeeds Json.indented h).mapError fun _ h ↦ h

/-! ## Documentation -/

/-- The fields of a documentation entry are texts. -/
def DocEntry.AreTexts (entry : DocEntry) : Prop := ∀ f ∈ entry, f.2.IsText

theorem descOr_isText {desc : Datum} (h : desc.IsText) : (descOr desc).IsText := by
  rw [descOr]
  split
  · exact h
  · trivial

theorem valueText_succeeds {value : Datum} (h : value.isWritable = true) :
    HasResult (valueText value) := by
  rw [valueText.eq_def]
  split
  · exact .ok trivial
  · exact ((value.display?_outcome.succeeds h).mapError fun _ h ↦ h).mapError fun _ h ↦ h

theorem constantEntry_succeeds {path : Text} {c : Constant} (hdesc : c.desc.IsText)
    (h : c.value.isWritable = true) : Succeeds DocEntry.AreTexts (constantEntry path c) := by
  refine (valueText_succeeds h).bind fun value _ ↦ ?_
  refine ((descOr_isText hdesc).inText.mapError fun _ h ↦ h).bind fun desc _ ↦ .ok ?_
  simp [DocEntry.AreTexts]

variable {types : Assoc Text Alias}

theorem functionEntry_succeeds (htypes : ∀ e ∈ types, e.2.WellFormed Datum.IsText)
    {f : Function} (hf : f.WellFormed Datum.IsText) {tables : List Text}
    (hname : (f.qualifiedName tables).isEncodable = true) (hshown : f.ShowsWritable types) :
    Succeeds DocEntry.AreTexts (functionEntry types tables f) := by
  have hsample := (Function.preferredSample_hasResult htypes hf hname).mpr hshown
  rw [functionEntry]
  refine (hsample.mapError fun _ h ↦ h).bind fun s _ ↦ ?_
  have hdesc := descOr_isText hf.desc
  split
  · exact .ok (by simp [DocEntry.AreTexts, hdesc])
  · exact .ok (by simp [DocEntry.AreTexts, hdesc])

/-- The fields of all entries are texts. -/
def DocsAreTexts (docs : Assoc Text DocEntry) : Prop := ∀ e ∈ docs, DocEntry.AreTexts e.2

theorem DocsAreTexts.put {docs : Assoc Text DocEntry} (h : DocsAreTexts docs) {entry : DocEntry}
    (hentry : DocEntry.AreTexts entry) (key : Text) : DocsAreTexts (docs.put key entry) := by
  intro e he
  rcases Assoc.mem_of_mem_put he with hmem | rfl
  · exact h e hmem
  · exact hentry

-- along the tables; that names can be encoded and numbers written is known of the plain form
mutual

theorem collectProperty_succeeds (htypes : ∀ e ∈ types, e.2.WellFormed Datum.IsText)
    (hshown : ∀ e ∈ types, BaseType.AllWritable e.2.types) :
    ∀ (p : Property) (tables : List Text) (docs : Assoc Text DocEntry), p.WellFormed Datum.IsText →
    p.toDatum.BuiltOf Scalar.IsPrintable → (∀ t ∈ tables, t.isEncodable = true) →
    DocsAreTexts docs → Succeeds DocsAreTexts (collectProperty types tables docs p)
  | .constant c, tables, docs, h, hp, _, hdocs => by
    have hfields := Datum.inherited_isPrintable.object.mp hp
    have hvalue := (hfields ("value", c.value) (by simp)).2.mono fun _ ↦ And.left
    exact (constantEntry_succeeds h.desc (Datum.HasJsonForm.isWritable hvalue)).bind
      fun _ hentry ↦ .ok (hdocs.put hentry _)
  | .function f, tables, docs, h, hp, htables, hdocs => by
    have hfields := Datum.inherited_isPrintable.object.mp hp
    have hname := (hfields ("name", .text f.name) (by simp)).2.isEncodable
    have hwritable := Function.isWritable_of_toDatum
      (Datum.HasJsonForm.isWritable (hp.mono fun _ ↦ And.left))
    exact (functionEntry_succeeds htypes h (f.isEncodable_qualifiedName hname htables)
      (Function.showsWritable_of_signatures hshown hwritable)).bind
        fun _ hentry ↦ .ok (hdocs.put hentry _)
  | .table (.mk name props), tables, docs, h, hp, htables, hdocs => by
    have hfields := Datum.inherited_isPrintable.object.mp hp
    have hname := (hfields ("name", .text name) (by simp)).2.isEncodable
    have hprops := (hfields ("props", .map (Table.toFields props)) (by simp)).2
    refine collectProperties_succeeds htypes hshown props (tables ++ [name]) _ h hprops ?_ ?_
    · exact List.forall_mem_append.mpr ⟨htables, List.forall_mem_singleton.mpr hname⟩
    · exact hdocs.put (by simp [DocEntry.AreTexts, tableEntry]) _
  | .valueClass _, _, _, _, _, _, hdocs => .ok hdocs

theorem collectProperties_succeeds (htypes : ∀ e ∈ types, e.2.WellFormed Datum.IsText)
    (hshown : ∀ e ∈ types, BaseType.AllWritable e.2.types) :
    ∀ (props : List (Text × Property)) (tables : List Text) (docs : Assoc Text DocEntry),
    Table.AllWellFormed Datum.IsText props →
    (Datum.map (Table.toFields props)).BuiltOf Scalar.IsPrintable →
    (∀ t ∈ tables, t.isEncodable = true) → DocsAreTexts docs →
    Succeeds DocsAreTexts (collectProperties types tables docs props)
  | [], _, _, _, _, _, hdocs => .ok hdocs
  | (key, p) :: rest, tables, docs, h, hp, htables, hdocs => by
    obtain ⟨⟨_, hself⟩, hrest⟩ :=
      List.forall_mem_cons.mp ((Datum.inherited_isPrintable.map _).mp hp)
    refine (collectProperty_succeeds htypes hshown p tables docs h.1 hself htables hdocs).bind
      fun docs' hdocs' ↦ ?_
    exact collectProperties_succeeds htypes hshown rest tables docs' h.2
      ((Datum.inherited_isPrintable.map _).mpr hrest) htables hdocs'

end

theorem curated_areTexts (documentation link sample : Text) :
    DocEntry.AreTexts (curated documentation link sample) := by
  simp [DocEntry.AreTexts, curated]

theorem docsAreTexts_curated :
    DocsAreTexts (curatedEntries.map fun e ↦ (docKey [e.1], e.2)) := by
  simp [DocsAreTexts, curatedEntries, curated_areTexts]

/-! ## Snippets -/

/-- A snippet is rendered unless a type of an argument shows an integer with too many digits. -/
theorem snippet_prints (name : Text) {e : Event} (h : e.WellFormed Datum.IsText) :
    SucceedsIff (Variable.AllWritable e.args) (.format (.digitLimit .writing)) Datum.HasJsonForm
      (snippet name e) := by
  have hparameter : ∀ a ∈ e.args, DeclaresUnless a.IsWritable (snippetParameter a) := by
    intro a ha
    have ha := Variable.allWellFormed_iff.mp h.args a ha
    obtain ⟨name, desc, types, variadic, optional⟩ := a
    have htypes := ofFormat_declares (BaseType.formatAll_prints types ha.2.2.2)
    exact htypes.bind_succeeds fun _ _ ↦ (ha.1.asText.mapError fun _ h ↦ h).bind fun _ _ ↦ .ok trivial
  have hhead : DeclaresUnless (Variable.AllWritable e.args) (handlerHead name e) :=
    ((DeclaresUnless.mapM hparameter).map _).congr Variable.allWritable_iff.symm
  refine SucceedsIff.returns hhead fun head _ ↦ ?_
  simp only [Datum.inherited_hasJsonForm.object, Datum.inherited_hasJsonForm.list,
    List.forall_mem_cons, Datum.hasJsonForm_text, true_and]
  refine ⟨List.forall_mem_nil _, ?_, List.forall_mem_nil _⟩
  split
  · exact h.desc.hasJsonForm
  · exact Datum.hasJsonForm_text _

end Render

namespace Document

variable {d : Document}

theorem docEntries_succeeds (h : d.WellFormed Datum.IsText)
    (hd : d.toDatum.BuiltOf Scalar.IsPrintable) :
    Succeeds Render.DocsAreTexts d.docEntries := by
  obtain ⟨⟨name, props⟩, types, classes, events⟩ := d
  have hparts := Datum.inherited_isPrintable.object.mp hd
  have htable := (hparts ("global", (Table.mk name props).toDatum) (by simp)).2
  have hfields := Datum.inherited_isPrintable.object.mp htable
  have hprops := (hfields ("props", .map (Table.toFields props)) (by simp)).2
  have hshown := allWritable_types (Datum.HasJsonForm.isWritable (hd.mono fun _ ↦ And.left))
  refine (Render.collectProperties_succeeds h.types hshown props [] [] h.globalTable hprops
    (List.forall_mem_nil _) (List.forall_mem_nil _)).bind fun docs hdocs ↦ .ok fun e he ↦ ?_
  rcases Assoc.mem_of_mem_update he with hmem | hmem
  · exact hdocs e hmem
  · exact Render.docsAreTexts_curated e hmem

theorem documentation_succeeds (h : d.WellFormed Datum.IsText)
    (hd : d.toDatum.BuiltOf Scalar.IsPrintable) : HasResult d.documentation := by
  refine (docEntries_succeeds h hd).bind fun docs hdocs ↦ Render.json_hasResult ?_
  refine Datum.inherited_hasJsonForm.object_mapValues.mpr fun e he ↦
    ⟨Datum.hasJsonForm_text _, ?_⟩
  exact Datum.inherited_hasJsonForm.object.mpr fun f hf ↦
    ⟨Datum.hasJsonForm_text _, (hdocs e he f hf).hasJsonForm⟩

theorem snippetEntries_prints (h : d.WellFormed Datum.IsText) :
    SucceedsIff (∀ e ∈ d.events, Variable.AllWritable e.2.args) (.format (.digitLimit .writing))
      (fun entries ↦ ∀ e ∈ entries, e.2.HasJsonForm) d.snippetEntries :=
  SucceedsIff.mapM fun e he ↦
    (Render.snippet_prints e.1 (h.events e he)).returns fun _ hsnippet ↦ hsnippet

theorem snippets_declares (h : d.WellFormed Datum.IsText) :
    Render.DeclaresUnless (∀ e ∈ d.events, Variable.AllWritable e.2.args) d.snippets := by
  refine (snippetEntries_prints h).bind_succeeds fun entries h ↦ Render.json_hasResult ?_
  exact Datum.inherited_hasJsonForm.object.mpr fun e he ↦ ⟨Datum.hasJsonForm_text _, h e he⟩

/-- A document that is read from JSON data can be written as JSON again. When its descriptions and
the names of its variables are texts, it has declarations and snippets as well, and documentation
when all texts of the data can be encoded. -/
theorem outputs_of_read {x : Datum} (hx : x.HasJsonForm) (c : Catalogue)
    (hread : read x = .ok d) :
    d.WellFormed Datum.IsGiven ∧
      (∃ t, OutputKind.documentJson.render c d = .ok t) ∧
      (d.WellFormed Datum.IsText →
        (∃ t, OutputKind.declarations.render c d = .ok t) ∧
        (∃ t, OutputKind.snippets.render c d = .ok t) ∧
        (x.BuiltOf Scalar.IsEncodable → ∃ t, OutputKind.documentation.render c d = .ok t)) := by
  have haccepted := (read_reads Datum.inherited_hasJsonForm hx).of_ok hread
  have hwritable := haccepted.2.isWritable
  refine ⟨haccepted.1, (Render.json_hasResult haccepted.2).exists_ok, fun h ↦ ⟨?_, ?_, ?_⟩⟩
  · exact ((declarations_declares h).hasResult_iff.mpr (isDeclarable_of_toDatum hwritable)).exists_ok
  · exact ((snippets_declares h).hasResult_iff.mpr (allWritable_events hwritable)).exists_ok
  · intro hencodable
    have hprintable := (read_reads Datum.inherited_isPrintable (hx.and hencodable)).of_ok hread
    exact (documentation_succeeds h hprintable.2).exists_ok

end Document

theorem Nested.isPrintable_document :
    Nested.document.toDatum.BuiltOf Scalar.IsPrintable := by
  have hnull := Datum.builtOf_scalar.mp Datum.inherited_isPrintable.null
  have hbool (b : Bool) := Datum.builtOf_scalar.mp (Datum.inherited_isPrintable.bool b)
  have hstring (s : String) := Datum.builtOf_scalar.mp (Datum.inherited_isPrintable.string s)
  have hempty : (Scalar.text []).IsPrintable := hstring ""
  have hfloat (x : Binary64) : (Scalar.float x).IsPrintable :=
    ⟨⟨rfl, by simp [Scalar.kind]⟩, trivial⟩
  have hint : (Scalar.int 3).IsPrintable :=
    ⟨⟨by decide +kernel, by simp [Scalar.kind]⟩, trivial⟩
  simp [Nested.document, Nested.valueClass, Nested.function, Nested.constant, Nested.argument,
    Document.toDatum, Table.toDatum, Table.toFields, Property.toDatum, Function.toDatum,
    Constant.toDatum, ValueClass.toDatum, Alias.toDatum, Event.toDatum, Signature.toDatum,
    Variable.plain, Variable.toData, Variable.toDatum, BaseType.toDatum, BaseType.toData,
    Literal.toDatum, SimpleType.name, Datum.ofOption, Assoc.mapValues, flagFields,
    Datum.inherited_isPrintable.object, Datum.inherited_isPrintable.list,
    Datum.inherited_isPrintable.map, Datum.builtOf_scalar, hnull, hbool, hstring, hempty, hfloat,
    hint]

/-- A document with tables in tables and all kinds of definitions has all outputs. -/
theorem Document.outputs_of_read_nested :
    Document.read Nested.document.toDatum = .ok Nested.document ∧
      ∀ kind ∈ [OutputKind.documentJson, .declarations, .snippets, .documentation],
        ∃ t, kind.render {} Nested.document = .ok t := by
  have hread : Document.read Nested.document.toDatum = .ok Nested.document :=
    Document.read_toDatum_of_wellFormed Datum.kept_isText _ Nested.wellFormed_document
  have hjson := Nested.isPrintable_document.mono fun _ ↦ And.left
  have hencodable := Nested.isPrintable_document.mono fun _ ↦ And.right
  obtain ⟨_, hdocument, houtputs⟩ := Document.outputs_of_read hjson {} hread
  obtain ⟨hdeclarations, hsnippets, hdocumentation⟩ := houtputs Nested.wellFormed_document
  refine ⟨hread, ?_⟩
  simp [hdocument, hdeclarations, hsnippets, hdocumentation hencodable]

namespace Described

/-- The plain form of a document with one constant, which some data describes. -/
def plain (desc : Datum) : Datum :=
  .object [("global", .object [("def", .text "table"), ("name", .text "SLua"),
    ("props", .object [("f", .object [("def", .text "const"), ("name", .text "f"), ("desc", desc),
      ("type", .object [("def", .text "simple"), ("value", .text "number")])])])])]

/-- A document with one constant, which some data describes. -/
def document (desc : Datum) : Document where
  globalTable := .mk "SLua"
    [("f", .constant { name := "f", desc := desc, type := .simple .number })]
  types := []
  classes := []
  events := []

end Described

/-- A description is read without a check: a number passes, and stops the declarations. -/
theorem Document.read_accepts_number_as_description :
    ¬ ∀ (x : Datum) (d : Document) (c : Catalogue), x.HasJsonForm → Document.read x = .ok d →
      ∃ t, OutputKind.declarations.render c d = .ok t := by
  intro h
  have hfive : (Scalar.int 5).HasJsonForm := ⟨by decide +kernel, by simp [Scalar.kind]⟩
  have hjson : (Described.plain (.scalar (.int 5))).HasJsonForm := by
    simp [Described.plain, Datum.inherited_hasJsonForm.object, Datum.builtOf_scalar,
      Scalar.hasJsonForm_text, hfive]
  have hread : Document.read (Described.plain (.scalar (.int 5))) =
      .ok (Described.document (.scalar (.int 5))) := rfl
  obtain ⟨t, ht⟩ := h _ _ {} hjson hread
  have hstopped : OutputKind.declarations.render {} (Described.document (.scalar (.int 5))) =
      .error (.notADescription (.scalar (.int 5))) := rfl
  cases hstopped.symm.trans ht

end ScriptDefs
