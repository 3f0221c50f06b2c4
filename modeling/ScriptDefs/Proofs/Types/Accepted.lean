import ScriptDefs.Proofs.Data.Inherited
import ScriptDefs.Proofs.Types.Reading
import ScriptDefs.Proofs.Types.WellFormed

/-!
# What reading accepts

The definitions that are read from plain data are well-formed, and what the data has of a property
that its parts inherit, the plain forms of the definitions have too. The errors show nothing else
than parts of the data.
-/

namespace ScriptDefs

variable {R : Datum → Prop}

/-- Well-formed, with a property of plain data in plain form. -/
def Accepted {α : Type} (R : Datum → Prop) (wellFormed : (Datum → Prop) → α → Prop)
    (write : α → Datum) (a : α) : Prop :=
  wellFormed Datum.IsGiven a ∧ R (write a)

/-! ## Types -/

theorem requireTypes_reads (place : Text) (types : List BaseType) :
    ReadsAs R (fun ts ↦ ts = types ∧ ts ≠ []) (requireTypes place types) := by
  rw [requireTypes]
  cases types with
  | nil => exact .error trivial
  | cons t rest => exact .ok ⟨rfl, List.cons_ne_nil t rest⟩

namespace BaseType

variable (hR : Datum.Inherited R)
include hR

theorem readSimple_reads {payload : Datum} (h : R payload) (place : Text) :
    ReadsAs R (Accepted R WellFormed toDatum) (readSimple place payload) := by
  rw [readSimple]
  split
  · next s _ =>
    refine .ok ⟨trivial, ?_⟩
    have hname : R (.text s.name) := by cases s <;> exact hR.string _
    simp [toDatum, hR.object, hR.string, hname]
  · exact .error h

theorem readLiteral_reads {payload : Datum} (h : R payload) (place : Text) :
    ReadsAs R (Accepted R WellFormed toDatum) (readLiteral place payload) := by
  rw [readLiteral.eq_def]
  split
  · exact .ok ⟨trivial, by simp [toDatum, Literal.toDatum, hR.object, hR.string, h]⟩
  · exact .ok ⟨trivial, by simp [toDatum, Literal.toDatum, hR.object, hR.string, h]⟩
  · exact .ok ⟨trivial, by simp [toDatum, Literal.toDatum, hR.object, hR.string, h]⟩
  · exact .error trivial

theorem readCustom_reads {payload : Datum} (h : R payload) (place : Text) :
    ReadsAs R (Accepted R WellFormed toDatum) (readCustom place payload) := by
  rw [readCustom.eq_def]
  split
  · exact .ok ⟨trivial, by simp [toDatum, hR.object, hR.string, h]⟩
  · exact .error trivial

end BaseType

/-- The types of a list, accepted. -/
def BaseType.AllAccepted (R : Datum → Prop) (types : List BaseType) : Prop :=
  BaseType.AllWellFormed Datum.IsGiven types ∧ ∀ d ∈ BaseType.toData types, R d

/-- The variables of a list, accepted. -/
def Variable.AllAccepted (R : Datum → Prop) (kind : Text) (vs : List Variable) : Prop :=
  Variable.AllWellFormed Datum.IsGiven vs ∧ ∀ d ∈ Variable.toData kind vs, R d

theorem BaseType.AllAccepted.cons {t : BaseType} {rest : List BaseType}
    (ht : Accepted R BaseType.WellFormed BaseType.toDatum t)
    (hrest : BaseType.AllAccepted R rest) : BaseType.AllAccepted R (t :: rest) :=
  ⟨⟨ht.1, hrest.1⟩, List.forall_mem_cons.mpr ⟨ht.2, hrest.2⟩⟩

theorem Variable.AllAccepted.cons {kind : Text} {v : Variable} {rest : List Variable}
    (hv : Accepted R Variable.WellFormed (Variable.toDatum kind) v)
    (hrest : Variable.AllAccepted R kind rest) : Variable.AllAccepted R kind (v :: rest) :=
  ⟨⟨hv.1, hrest.1⟩, List.forall_mem_cons.mpr ⟨hv.2, hrest.2⟩⟩

-- along the readers, which go through the data in the same way
mutual

theorem BaseType.read_reads (hR : Datum.Inherited R) : ∀ (d : Datum) (place : Text), R d →
    ReadsAs R (Accepted R BaseType.WellFormed BaseType.toDatum) (BaseType.read place d)
  | .map fields, place, h => by
    rw [BaseType.read]
    split
    · exact .error trivial
    next payload hpayload =>
    have hpayload : R payload := hR.get? h hpayload
    have hdef : R (Fields.get fields "def") := hR.get h "def"
    split
    · next kind hkind =>
      split
      · exact BaseType.readSimple_reads hR hpayload place
      split
      · exact BaseType.readLiteral_reads hR hpayload place
      split
      · exact BaseType.readCustom_reads hR hpayload place
      split
      · refine (Signature.readAt_reads hR fields place "value" h).bind fun s hs ↦ ?_
        exact .ok ⟨hs.1, by simp [BaseType.toDatum, hR.object, hR.string, hs.2]⟩
      split
      · refine (BaseType.readListAt_reads hR fields place "value" h).bind fun types htypes ↦ ?_
        refine .ok ⟨htypes.1, ?_⟩
        have hlist := (hR.list _).mpr htypes.2
        simp [BaseType.toDatum, hR.object, hR.string, hlist]
      · rw [hkind] at hdef
        exact .error hdef
    · exact .error hdef
  | .scalar _, _, _ | .list _, _, _ | .pair _ _, _, _ | .set _, _, _ | .knot _ _, _, _
  | .again _ _, _, _ => .error trivial

theorem BaseType.readListAt_reads (hR : Datum.Inherited R) :
    ∀ (fields : List (Scalar × Datum)) (place key : Text), R (.map fields) →
    ReadsAs R (BaseType.AllAccepted R) (BaseType.readListAt place key fields)
  | [], _, _, _ => .error trivial
  | (k, d) :: rest, place, key, h => by
    obtain ⟨⟨_, hd⟩, hrest⟩ := List.forall_mem_cons.mp ((hR.map _).mp h)
    rw [BaseType.readListAt]
    split
    · exact BaseType.readList_reads hR d _ hd
    · exact BaseType.readListAt_reads hR rest _ _ ((hR.map _).mpr hrest)

theorem BaseType.readList_reads (hR : Datum.Inherited R) : ∀ (d : Datum) (place : Text), R d →
    ReadsAs R (BaseType.AllAccepted R) (BaseType.readList place d)
  | .list items, place, h => BaseType.readItems_reads hR items place 0 ((hR.list _).mp h)
  | .scalar _, _, _ | .map _, _, _ | .pair _ _, _, _ | .set _, _, _ | .knot _ _, _, _
  | .again _ _, _, _ => .error trivial

theorem BaseType.readItems_reads (hR : Datum.Inherited R) :
    ∀ (items : List Datum) (place : Text) (index : Nat), (∀ d ∈ items, R d) →
    ReadsAs R (BaseType.AllAccepted R) (BaseType.readItems place index items)
  | [], _, _, _ => .ok ⟨trivial, List.forall_mem_nil _⟩
  | d :: rest, place, index, h => by
    obtain ⟨hd, hrest⟩ := List.forall_mem_cons.mp h
    rw [BaseType.readItems]
    refine (BaseType.read_reads hR d _ hd).bind fun t ht ↦ ?_
    refine (BaseType.readItems_reads hR rest place (index + 1) hrest).bind fun types htypes ↦ ?_
    exact .ok (.cons ht htypes)

theorem Variable.read_reads (hR : Datum.Inherited R) :
    ∀ (d : Datum) (kind place : Text), R d →
    ReadsAs R (Accepted R Variable.WellFormed (Variable.toDatum kind)) (Variable.read kind place d)
  | .map fields, kind, place, h => by
    rw [Variable.read]
    refine (Fields.expectDef_reads fields place (hR.get h "def") kind).bind fun _ hkind ↦ ?_
    refine (BaseType.readListAt_reads hR fields place "type" h).bind fun types htypes ↦ ?_
    refine (requireTypes_reads _ types).bind fun types' ⟨heq, hne⟩ ↦ ?_
    subst heq
    refine (Fields.flag_reads fields place "variadic").bind fun variadic _ ↦ ?_
    refine (Fields.flag_reads fields place "optional").bind fun optional _ ↦ ?_
    refine .ok ⟨⟨Datum.isGiven_orEmptyText _, Datum.isGiven_orEmptyText _, hne, htypes.1⟩, ?_⟩
    have hkind : R (.text kind) := hkind ▸ hR.get h "def"
    have hlist := (hR.list _).mpr htypes.2
    have hname := hR.orEmptyText (hR.get h "name")
    have hdesc := hR.orEmptyText (hR.get h "desc")
    simp [Variable.toDatum, hR.object, hR.string, hR.bool, hkind, hlist, Fields.orEmptyText, hname,
      hdesc]
  | .scalar _, _, _, _ | .list _, _, _, _ | .pair _ _, _, _, _ | .set _, _, _, _
  | .knot _ _, _, _, _ | .again _ _, _, _, _ => .error trivial

theorem Variable.readListAt_reads (hR : Datum.Inherited R) :
    ∀ (fields : List (Scalar × Datum)) (kind place key : Text), R (.map fields) →
    ReadsAs R (Variable.AllAccepted R kind) (Variable.readListAt kind place key fields)
  | [], _, _, _, _ => .ok ⟨trivial, List.forall_mem_nil _⟩
  | (k, d) :: rest, kind, place, key, h => by
    obtain ⟨⟨_, hd⟩, hrest⟩ := List.forall_mem_cons.mp ((hR.map _).mp h)
    rw [Variable.readListAt]
    split
    · exact Variable.readList_reads hR d _ _ hd
    · exact Variable.readListAt_reads hR rest _ _ _ ((hR.map _).mpr hrest)

theorem Variable.readList_reads (hR : Datum.Inherited R) :
    ∀ (d : Datum) (kind place : Text), R d →
    ReadsAs R (Variable.AllAccepted R kind) (Variable.readList kind place d)
  | .list items, kind, place, h =>
    Variable.readItems_reads hR items kind place 0 ((hR.list _).mp h)
  | .scalar _, _, _, _ | .map _, _, _, _ | .pair _ _, _, _, _ | .set _, _, _, _
  | .knot _ _, _, _, _ | .again _ _, _, _, _ => .error trivial

theorem Variable.readItems_reads (hR : Datum.Inherited R) :
    ∀ (items : List Datum) (kind place : Text) (index : Nat), (∀ d ∈ items, R d) →
    ReadsAs R (Variable.AllAccepted R kind) (Variable.readItems kind place index items)
  | [], _, _, _, _ => .ok ⟨trivial, List.forall_mem_nil _⟩
  | d :: rest, kind, place, index, h => by
    obtain ⟨hd, hrest⟩ := List.forall_mem_cons.mp h
    rw [Variable.readItems]
    refine (Variable.read_reads hR d kind _ hd).bind fun v hv ↦ ?_
    refine (Variable.readItems_reads hR rest kind place (index + 1) hrest).bind fun vs hvs ↦ ?_
    exact .ok (.cons hv hvs)

theorem Signature.read_reads (hR : Datum.Inherited R) : ∀ (d : Datum) (place : Text), R d →
    ReadsAs R (Accepted R Signature.WellFormed Signature.toDatum) (Signature.read place d)
  | .map fields, place, h => by
    rw [Signature.read]
    refine (Fields.optionalList_reads fields "result" hR h _).bind fun _ _ ↦ ?_
    refine (Variable.readListAt_reads hR fields "arg" place "args" h).bind fun args hargs ↦ ?_
    refine (Variable.readListAt_reads hR fields "result" place "result" h).bind
      fun results hresults ↦ ?_
    refine .ok ⟨⟨hargs.1, hresults.1⟩, ?_⟩
    have ha := (hR.list _).mpr hargs.2
    have hr := (hR.list _).mpr hresults.2
    simp [Signature.toDatum, hR.object, hR.string, ha, hr]
  | .scalar _, _, _ | .list _, _, _ | .pair _ _, _, _ | .set _, _, _ | .knot _ _, _, _
  | .again _ _, _, _ => .error trivial

theorem Signature.readAt_reads (hR : Datum.Inherited R) :
    ∀ (fields : List (Scalar × Datum)) (place key : Text), R (.map fields) →
    ReadsAs R (Accepted R Signature.WellFormed Signature.toDatum)
      (Signature.readAt place key fields)
  | [], _, _, _ => .error trivial
  | (k, d) :: rest, place, key, h => by
    obtain ⟨⟨_, hd⟩, hrest⟩ := List.forall_mem_cons.mp ((hR.map _).mp h)
    rw [Signature.readAt]
    split
    · exact Signature.read_reads hR d _ hd
    · exact Signature.readAt_reads hR rest _ _ ((hR.map _).mpr hrest)

end

/-! ## Functions and constants -/

section Definitions

variable (hR : Datum.Inherited R)
include hR

theorem Function.read_reads {d : Datum} (h : R d) (place : Text) :
    ReadsAs R (Accepted R Function.WellFormed Function.toDatum) (Function.read place d) := by
  rw [Function.read]
  refine (d.requireMap_reads place).bind fun fields hfields ↦ ?_
  subst hfields
  refine (Fields.expectDef_reads fields place (hR.get h "def") "func").bind fun _ _ ↦ ?_
  refine (Fields.require_reads fields place "signatures").bind fun items' hitems' ↦ ?_
  refine (items'.requireList_reads _).bind fun items hitems ↦ ?_
  subst hitems
  have hitems := (hR.list items).mp (hR.get? h hitems')
  cases items with
  | nil => exact .error trivial
  | cons item items =>
  refine (Fields.requireText_reads fields place "name").bind fun name hname ↦ ?_
  refine (Fields.optionalText_reads fields place "link").bind fun link hlink ↦ ?_
  rw [Signature.readItems_eq]
  have hsignature : ∀ d ∈ item :: items, ∀ place,
      ReadsAs R (Accepted R Signature.WellFormed Signature.toDatum) (Signature.read place d) :=
    fun d hd place ↦ Signature.read_reads hR d place (hitems d hd)
  refine (readEach_reads hsignature _ 0).bind fun signatures ⟨hlength, hsignatures⟩ ↦ ?_
  refine (Fields.numberOrNull_reads fields place "energy").bind fun energy ⟨henergy, heq⟩ ↦ ?_
  refine (Fields.numberOrNull_reads fields place "sleep").bind fun sleep ⟨hsleep, heq'⟩ ↦ ?_
  refine (Fields.flag_reads fields place "must_use").bind fun mustUse _ ↦ ?_
  refine (Fields.flag_reads fields place "private").bind fun restricted _ ↦ ?_
  refine (Fields.flag_reads fields place "deprecated").bind fun deprecated _ ↦ ?_
  refine (Fields.flag_reads fields place "god-mode").bind fun godMode _ ↦ ?_
  refine (Fields.flag_reads fields place "linden-experience").bind fun lindenExperience _ ↦ ?_
  refine (Fields.flag_reads fields place "takesSelf").bind fun takesSelf _ ↦ ?_
  refine .ok ⟨⟨Datum.isGiven_orEmptyText _, ?_, fun s hs ↦ (hsignatures s hs).1, henergy, hsleep⟩,
    ?_⟩
  · exact List.ne_nil_of_length_pos (by rw [hlength]; exact Nat.succ_pos _)
  · have hname : R (.text name) := hname ▸ hR.get h "name"
    have hlink : R (.ofOption link) := hlink ▸ hR.get h "link"
    have henergy : R energy := heq ▸ hR.get h "energy"
    have hsleep : R sleep := heq' ▸ hR.get h "sleep"
    have hdesc := hR.orEmptyText (hR.get h "desc")
    have hlist : R (.list (signatures.map Signature.toDatum)) :=
      hR.list_map.mpr fun s hs ↦ (hsignatures s hs).2
    rw [Function.toDatum, hR.object, List.forall_mem_append]
    refine ⟨?_, hR.flagFields ?_⟩
    · simp [hR.string, hR.bool, hname, Fields.orEmptyText, hdesc, hlink, henergy, hsleep, hlist]
    · simp [hR.string]

theorem Constant.read_reads {d : Datum} (h : R d) (place : Text) :
    ReadsAs R (Accepted R Constant.WellFormed Constant.toDatum) (Constant.read place d) := by
  rw [Constant.read]
  refine (d.requireMap_reads place).bind fun fields hfields ↦ ?_
  subst hfields
  refine (Fields.expectDef_reads fields place (hR.get h "def") "const").bind fun _ _ ↦ ?_
  refine (Fields.constantValue_reads fields place).bind fun value ⟨hvalue, hget⟩ ↦ ?_
  refine (Fields.requireText_reads fields place "name").bind fun name hname ↦ ?_
  refine (Fields.require_reads fields place "type").bind fun type htype ↦ ?_
  refine (BaseType.read_reads hR type _ (hR.get? h htype)).bind fun t ht ↦ ?_
  refine (Fields.optionalText_reads fields place "valueRaw").bind fun raw hraw ↦ ?_
  refine (Fields.optionalText_reads fields place "link").bind fun link hlink ↦ ?_
  refine .ok ⟨⟨Datum.isGiven_orEmptyText _, ht.1, hvalue⟩, ?_⟩
  have hname : R (.text name) := hname ▸ hR.get h "name"
  have hvalue : R value := hget ▸ hR.get h "value"
  have hraw : R (.ofOption raw) := hraw ▸ hR.get h "valueRaw"
  have hlink : R (.text (link.getD [])) := hR.getD (hlink ▸ hR.get h "link")
  have hdesc := hR.orEmptyText (hR.get h "desc")
  simp [Constant.toDatum, hR.object, hR.string, hname, Fields.orEmptyText, hdesc, ht.2, hvalue,
    hraw, hlink]

/-! ## Classes, tables, events and named types -/

/-- The members of an object, accepted one by one. -/
theorem readMembers_accepted {α : Type} {read : Text → Datum → Except ShapeError α}
    {wellFormed : (Datum → Prop) → α → Prop} {write : α → Datum}
    (hread : ∀ {d : Datum}, R d → ∀ place, ReadsAs R (Accepted R wellFormed write) (read place d))
    {fields : Fields} (hfields : R (.map fields)) (place : Text) :
    ReadsAs R (fun m ↦ (∀ e ∈ m, wellFormed Datum.IsGiven e.2) ∧ R (.object (m.mapValues write)))
      (readMembers read place fields) := by
  have hmember : ∀ e ∈ fields, ∀ place, ReadsAs R (Accepted R wellFormed write) (read place e.2) :=
    fun e he ↦ hread ((hR.map _).mp hfields e he).2
  refine (readMembers_reads hR hfields hmember place).mono fun m hm ↦ ?_
  exact ⟨fun e he ↦ (hm e he).2.1,
    hR.object_mapValues.mpr fun e he ↦ ⟨(hm e he).1, (hm e he).2.2⟩⟩

theorem ValueClass.read_reads {d : Datum} (h : R d) (place : Text) :
    ReadsAs R (Accepted R ValueClass.WellFormed ValueClass.toDatum) (ValueClass.read place d) := by
  rw [ValueClass.read]
  refine (d.requireMap_reads place).bind fun fields hfields ↦ ?_
  subst hfields
  refine (Fields.expectDef_reads fields place (hR.get h "def") "class").bind fun _ _ ↦ ?_
  refine (Fields.optionalMap_reads fields "funcs" hR h _).bind fun funcs hfuncs ↦ ?_
  refine (Fields.optionalMap_reads fields "props" hR h _).bind fun props hprops ↦ ?_
  refine (Fields.requireText_reads fields place "name").bind fun name hname ↦ ?_
  refine (readMembers_accepted hR (Function.read_reads hR) hfuncs _).bind fun fs hfs ↦ ?_
  refine (readMembers_accepted hR (Constant.read_reads hR) hprops _).bind fun ps hps ↦ ?_
  refine .ok ⟨⟨hfs.1, hps.1⟩, ?_⟩
  have hname : R (.text name) := hname ▸ hR.get h "name"
  rw [ValueClass.toDatum, hR.object]
  simp [hR.string, hname, hfs.2, hps.2]

end Definitions

/-- The properties of a list of entries, accepted. -/
def Table.AllAccepted (R : Datum → Prop) (props : List (Text × Property)) : Prop :=
  Table.AllWellFormed Datum.IsGiven props ∧ R (.map (Table.toFields props))

theorem Table.AllAccepted.nil (hR : Datum.Inherited R) : Table.AllAccepted R [] :=
  ⟨trivial, (hR.map _).mpr (List.forall_mem_nil _)⟩

theorem Table.AllAccepted.cons (hR : Datum.Inherited R) {key : Text} {p : Property}
    {rest : List (Text × Property)} (hkey : R (.text key))
    (hp : Accepted R Property.WellFormed Property.toDatum p)
    (hrest : Table.AllAccepted R rest) : Table.AllAccepted R ((key, p) :: rest) := by
  refine ⟨⟨hp.1, hrest.1⟩, (hR.map _).mpr ?_⟩
  exact List.forall_mem_cons.mpr ⟨⟨hkey, hp.2⟩, (hR.map _).mp hrest.2⟩

mutual

theorem Property.read_reads (hR : Datum.Inherited R) : ∀ (d : Datum) (place : Text), R d →
    ReadsAs R (Accepted R Property.WellFormed Property.toDatum) (Property.read place d)
  | .map fields, place, h => by
    have hdef : R (Fields.get fields "def") := hR.get h "def"
    rw [Property.read]
    split
    · next kind hkind =>
      split
      · exact (Constant.read_reads hR h place).bind fun _ hc ↦ .ok hc
      split
      · exact (Function.read_reads hR h place).bind fun _ hf ↦ .ok hf
      split
      · exact (ValueClass.read_reads hR h place).bind fun _ hc ↦ .ok hc
      split
      · refine (Fields.optionalMap_reads fields "props" hR h _).bind fun _ _ ↦ ?_
        refine (Fields.requireText_reads fields place "name").bind fun name hname ↦ ?_
        refine (Property.readMapAt_reads hR fields place "props" h).bind fun props hprops ↦ ?_
        refine .ok ⟨hprops.1, ?_⟩
        have hname : R (.text name) := hname ▸ hR.get h "name"
        simp [Property.toDatum, Table.toDatum, hR.object, hR.string, hname, hprops.2]
      · rw [hkind] at hdef
        exact .error hdef
    · exact .error hdef
  | .scalar _, _, _ | .list _, _, _ | .pair _ _, _, _ | .set _, _, _ | .knot _ _, _, _
  | .again _ _, _, _ => .error trivial

theorem Property.readMapAt_reads (hR : Datum.Inherited R) :
    ∀ (fields : List (Scalar × Datum)) (place key : Text), R (.map fields) →
    ReadsAs R (Table.AllAccepted R) (Property.readMapAt place key fields)
  | [], _, _, _ => .ok (.nil hR)
  | (k, d) :: rest, place, key, h => by
    obtain ⟨⟨_, hd⟩, hrest⟩ := List.forall_mem_cons.mp ((hR.map _).mp h)
    rw [Property.readMapAt]
    split
    · exact Property.readMap_reads hR d _ hd
    · exact Property.readMapAt_reads hR rest _ _ ((hR.map _).mpr hrest)

theorem Property.readMap_reads (hR : Datum.Inherited R) : ∀ (d : Datum) (place : Text), R d →
    ReadsAs R (Table.AllAccepted R) (Property.readMap place d)
  | .map fields, place, h => Property.readEntries_reads hR fields place h
  | .scalar _, _, _ | .list _, _, _ | .pair _ _, _, _ | .set _, _, _ | .knot _ _, _, _
  | .again _ _, _, _ => .error trivial

theorem Property.readEntries_reads (hR : Datum.Inherited R) :
    ∀ (fields : List (Scalar × Datum)) (place : Text), R (.map fields) →
    ReadsAs R (Table.AllAccepted R) (Property.readEntries place fields)
  | [], _, _ => .ok (.nil hR)
  | (k, d) :: rest, place, h => by
    obtain ⟨⟨hk, hd⟩, hrest⟩ := List.forall_mem_cons.mp ((hR.map _).mp h)
    have ih := Property.readEntries_reads hR rest place ((hR.map _).mpr hrest)
    cases k with
    | text key =>
      rw [Property.readEntries]
      refine (Property.read_reads hR d _ hd).bind fun p hp ↦ ?_
      exact ih.bind fun props hprops ↦ .ok (.cons hR hk hp hprops)
    | _ => exact ih

end

section Definitions

variable (hR : Datum.Inherited R)
include hR

theorem Table.read_reads {d : Datum} (h : R d) (place : Text) :
    ReadsAs R (Accepted R Table.WellFormed Table.toDatum) (Table.read place d) := by
  rw [Table.read]
  refine (d.requireMap_reads place).bind fun fields hfields ↦ ?_
  subst hfields
  refine (Fields.expectDef_reads fields place (hR.get h "def") "table").bind fun _ _ ↦ ?_
  refine (Property.read_reads hR _ place h).bind fun p hp ↦ ?_
  cases p with
  | table t => exact .ok hp
  | _ => exact .error (hR.get h "def")

theorem Event.read_reads {d : Datum} (h : R d) (place : Text) :
    ReadsAs R (Accepted R Event.WellFormed Event.toDatum) (Event.read place d) := by
  rw [Event.read]
  refine (d.requireMap_reads place).bind fun fields hfields ↦ ?_
  subst hfields
  refine (Fields.expectDef_reads fields place (hR.get h "def") "event").bind fun _ _ ↦ ?_
  refine (Fields.requireText_reads fields place "name").bind fun name hname ↦ ?_
  refine (Fields.optionalText_reads fields place "link").bind fun link hlink ↦ ?_
  refine (Variable.readListAt_reads hR fields "arg" place "args" h).bind fun args hargs ↦ ?_
  refine .ok ⟨⟨Datum.isGiven_orEmptyText _, hargs.1⟩, ?_⟩
  have hname : R (.text name) := hname ▸ hR.get h "name"
  have hlink : R (.text (link.getD [])) := hR.getD (hlink ▸ hR.get h "link")
  have hdesc := hR.orEmptyText (hR.get h "desc")
  have hlist := (hR.list _).mpr hargs.2
  simp [Event.toDatum, hR.object, hR.string, hname, Fields.orEmptyText, hdesc, hlink, hlist]

theorem Alias.read_reads {d : Datum} (h : R d) (place : Text) :
    ReadsAs R (Accepted R Alias.WellFormed Alias.toDatum) (Alias.read place d) := by
  rw [Alias.read]
  refine (d.requireMap_reads place).bind fun fields hfields ↦ ?_
  subst hfields
  refine (Fields.requireText_reads fields place "name").bind fun name hname ↦ ?_
  refine (BaseType.readListAt_reads hR fields place "type" h).bind fun types htypes ↦ ?_
  refine (requireTypes_reads _ types).bind fun types' ⟨heq, hne⟩ ↦ ?_
  subst heq
  refine .ok ⟨⟨Datum.isGiven_orEmptyText _, hne, htypes.1⟩, ?_⟩
  have hname : R (.text name) := hname ▸ hR.get h "name"
  have hdesc := hR.orEmptyText (hR.get h "desc")
  have hlist := (hR.list _).mpr htypes.2
  simp [Alias.toDatum, hR.object, hR.string, hname, Fields.orEmptyText, hdesc, hlist]

/-! ## Documents -/

/-- What is read as a document is a well-formed document, in which only descriptions and the names
of variables can be anything but what they are declared as. -/
theorem Document.read_reads {d : Datum} (h : R d) :
    ReadsAs R (Accepted R Document.WellFormed Document.toDatum) (Document.read d) := by
  rw [Document.read]
  refine (d.requireMap_reads "document").bind fun fields hfields ↦ ?_
  subst hfields
  refine (Fields.optionalMap_reads fields "types" hR h _).bind fun types htypes ↦ ?_
  refine (Fields.optionalMap_reads fields "classes" hR h _).bind fun classes hclasses ↦ ?_
  refine (Fields.optionalMap_reads fields "events" hR h _).bind fun events hevents ↦ ?_
  refine (Fields.require_reads fields "document" "global").bind fun table htable ↦ ?_
  refine (Table.read_reads hR (hR.get? h htable) _).bind fun t ht ↦ ?_
  refine (readMembers_accepted hR (Alias.read_reads hR) htypes _).bind fun as has ↦ ?_
  refine (readMembers_accepted hR (ValueClass.read_reads hR) hclasses _).bind fun cs hcs ↦ ?_
  refine (readMembers_accepted hR (Event.read_reads hR) hevents _).bind fun es hes ↦ ?_
  refine .ok ⟨⟨ht.1, has.1, hcs.1, hes.1⟩, ?_⟩
  rw [Document.toDatum, hR.object]
  simp [hR.string, ht.2, has.2, hcs.2, hes.2]

end Definitions

end ScriptDefs
