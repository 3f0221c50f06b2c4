import ScriptDefs.Proofs.Patch.Rewording
import ScriptDefs.Proofs.Types.Reading

/-!
# Reading reworded documents

Where the name of one simple type stands in the place of another as the value of a type of an
argument, a document is read with the same outcome, and what is read is reworded at the same sites.
-/

namespace ScriptDefs

/-! ## Sites -/

/-- The value of a type. -/
inductive BaseType.Site : Address → Prop where
  | value : BaseType.Site [.key (.text "value")]

/-- The value of one of the types of a variable. -/
inductive Variable.Site : Address → Prop where
  | type (i n : Nat) {a : Address} (h : BaseType.Site a) :
    Variable.Site (.key (.text "type") :: .item i n :: a)

/-- The value of a type of an argument of a signature or of an event. -/
inductive Signature.Site : Address → Prop where
  | args (i n : Nat) {a : Address} (h : Variable.Site a) :
    Signature.Site (.key (.text "args") :: .item i n :: a)

/-- The value of a type of an argument of a function, which may be in tables. -/
inductive Property.Site : Address → Prop where
  | signatures (i n : Nat) {a : Address} (h : Signature.Site a) :
    Property.Site (.key (.text "signatures") :: .item i n :: a)
  | props (k : Scalar) {a : Address} (h : Property.Site a) :
    Property.Site (.key (.text "props") :: .key k :: a)

/-- The value of a type of an argument of a function in the global table, or of an event. -/
inductive Document.Site : Address → Prop where
  | globalTable {a : Address} (h : Property.Site a) : Document.Site (.key (.text "global") :: a)
  | events (k : Scalar) {a : Address} (h : Signature.Site a) :
    Document.Site (.key (.text "events") :: .key k :: a)

theorem BaseType.Site.only {S : Sites} (hS : ∀ a, S a → BaseType.Site a) : S.Only ["value"] := by
  intro a ha
  cases hS a ha
  exact ⟨"value", by simp, _, rfl⟩

theorem Variable.Site.only {S : Sites} (hS : ∀ a, S a → Variable.Site a) : S.Only ["type"] := by
  intro a ha
  cases hS a ha
  exact ⟨"type", by simp, _, rfl⟩

theorem Signature.Site.only {S : Sites} (hS : ∀ a, S a → Signature.Site a) :
    S.Only ["args"] := by
  intro a ha
  cases hS a ha
  exact ⟨"args", by simp, _, rfl⟩

theorem Property.Site.only {S : Sites} (hS : ∀ a, S a → Property.Site a) :
    S.Only ["signatures", "props"] := by
  intro a ha
  cases hS a ha with
  | signatures => exact ⟨"signatures", by simp, _, rfl⟩
  | props => exact ⟨"props", by simp, _, rfl⟩

theorem Document.Site.only {S : Sites} (hS : ∀ a, S a → Document.Site a) :
    S.Only ["global", "events"] := by
  intro a ha
  cases hS a ha with
  | globalTable => exact ⟨"global", by simp, _, rfl⟩
  | events => exact ⟨"events", by simp, _, rfl⟩

variable {s t : SimpleType} {S : Sites} {x y : Datum} {f g : Fields}

/-! ## Types -/

/-- A type is read from the fields for its kind and its value. -/
theorem BaseType.read_congr (hdef : f.get? "def" = g.get? "def")
    (hvalue : f.get? "value" = g.get? "value") (place : Text) :
    BaseType.read place (.map f) = BaseType.read place (.map g) := by
  rw [BaseType.read, BaseType.read, hvalue, Fields.get, Fields.get, hdef]
  simp only [Signature.readAt_eq, BaseType.readListAt_eq, Fields.require, hvalue]

/-- The name of one simple type can be read where that of another can. -/
theorem BaseType.read_name (hS : S [.key (.text "value")])
    (hdef : f.get? "def" = g.get? "def") (hf : f.get? "value" = some (.text s.name))
    (hg : g.get? "value" = some (.text t.name)) (place : Text) :
    SameOutcome (FormsReworded s.name t.name S BaseType.toDatum)
      (BaseType.read place (.map f)) (BaseType.read place (.map g)) := by
  have hobject : ∀ mark : Text, Datum.Reworded s.name t.name S
      (.object [("def", .text mark), ("value", .text s.name)])
      (.object [("def", .text mark), ("value", .text t.name)]) := fun mark ↦
    .object (.cons (.same _ _) (.cons (.text _ hS) .nil))
  rw [BaseType.read, BaseType.read, hf, hg]
  simp only [Fields.get, hdef]
  split
  · next kind _ =>
    split
    · rw [BaseType.readSimple, BaseType.readSimple]
      simp only [Datum.toText?, Option.bind_some, SimpleType.ofName?_name]
      exact .ok (hobject _)
    split
    · exact .ok (hobject _)
    split
    · exact .ok (hobject _)
    split
    · rw [Signature.readAt_eq, Signature.readAt_eq, Fields.require, Fields.require, hf, hg]
      exact .error _
    split
    · rw [BaseType.readListAt_eq, BaseType.readListAt_eq, Fields.require, Fields.require, hf, hg]
      exact .error _
    · exact .error _
  · exact .error _

theorem BaseType.read_reworded (hS : ∀ a, S a → BaseType.Site a)
    (h : Datum.Reworded s.name t.name S x y) (place : Text) :
    SameOutcome (FormsReworded s.name t.name S BaseType.toDatum)
      (BaseType.read place x) (BaseType.read place y) := by
  cases h with
  | same => exact .refl (fun _ ↦ .same _ _) _
  | text _ h => cases hS _ h
  | list => exact .error _
  | @map _ f g hkeys h =>
    have hfields : Fields.Reworded s.name t.name S f g :=
      Datum.Reworded.map_iff.mp (.map hkeys h)
    have hdef := hfields.agreeOff (BaseType.Site.only hS) "def" (by simp)
    rcases hfields.get? "value" with ⟨hf, hg⟩ | ⟨v, w, hf, hg, hvw⟩
    · rw [BaseType.read_congr hdef (hf.trans hg.symm)]
      exact .refl (fun _ ↦ .same _ _) _
    · have hempty : ∀ a, S (.key (.text "value") :: a) → a = [] := fun a ha ↦ by
        cases hS _ ha
        rfl
      rcases hvw.eq_or_text hempty with rfl | ⟨hsite, rfl, rfl⟩
      · rw [BaseType.read_congr hdef (hf.trans hg.symm)]
        exact .refl (fun _ ↦ .same _ _) _
      · exact BaseType.read_name hsite hdef hf hg place

theorem BaseType.readListAt_reworded {key : Text} (h : Fields.Reworded s.name t.name S f g)
    (hS : ∀ i n a, S (.key (.text key) :: .item i n :: a) → BaseType.Site a) (place : Text) :
    SameOutcome (ListReworded s.name t.name (S.below (.key (.text key))) BaseType.toDatum)
      (BaseType.readListAt place key f) (BaseType.readListAt place key g) := by
  rw [BaseType.readListAt_eq, BaseType.readListAt_eq]
  refine (h.require place key).bind fun x y hxy ↦ ?_
  refine (hxy.requireList _).bind fun xs ys hs ↦ ?_
  exact readEach_reworded hs (fun i n x y h ↦ BaseType.read_reworded (hS i n) h) _

/-- Whether there are types at all is the same. -/
theorem requireTypes_reworded {old new : Text} {types types' : List BaseType}
    (h : ListReworded old new S BaseType.toDatum types types') (place : Text) :
    SameOutcome (ListReworded old new S BaseType.toDatum) (requireTypes place types)
      (requireTypes place types') := by
  rw [requireTypes, requireTypes]
  cases h with
  | nil => exact .error _
  | cons h hs => exact .ok (.cons h hs)

/-! ## Variables and signatures -/

/-- A variable with reworded types. -/
theorem Variable.toDatum_reworded (kind : Text) (name desc : Datum) {types types' : List BaseType}
    (variadic optional : Bool)
    (h : ListReworded s.name t.name (S.below (.key (.text "type"))) BaseType.toDatum types types') :
    FormsReworded s.name t.name S (Variable.toDatum kind)
      (.mk name desc types variadic optional) (.mk name desc types' variadic optional) := by
  rw [FormsReworded, Variable.toDatum, Variable.toDatum, BaseType.toData_eq_map,
    BaseType.toData_eq_map]
  refine .object (.cons (.same _ _) (.cons (.same _ _) (.cons (.same _ _) (.cons h.toDatum ?_))))
  exact .refl (fun _ d ↦ .same _ d) _

theorem Variable.site_type (hS : ∀ a, S a → Variable.Site a) (i n : Nat) (a : Address)
    (ha : S (.key (.text "type") :: .item i n :: a)) : BaseType.Site a := by
  cases hS _ ha with
  | type _ _ h => exact h

theorem Variable.read_reworded (hS : ∀ a, S a → Variable.Site a)
    (h : Datum.Reworded s.name t.name S x y) (kind place : Text) :
    SameOutcome (FormsReworded s.name t.name S (Variable.toDatum kind))
      (Variable.read kind place x) (Variable.read kind place y) := by
  cases h with
  | same => exact .refl FormsReworded.refl _
  | text => exact .error _
  | list => exact .error _
  | @map _ f g hkeys h =>
    have hfields : Fields.Reworded s.name t.name S f g :=
      Datum.Reworded.map_iff.mp (.map hkeys h)
    have hoff := hfields.agreeOff (Variable.Site.only hS)
    have htypes := BaseType.readListAt_reworded hfields (Variable.site_type hS) place
    rw [Variable.read, Variable.read]
    simp (disch := simp) only [hoff.expectDef, hoff.flag, hoff.orEmptyText]
    refine .bind_same _ fun _ _ ↦ ?_
    refine htypes.bind fun types types' hts ↦ ?_
    refine (requireTypes_reworded hts _).bind fun types types' hts ↦ ?_
    refine .bind_same _ fun variadic _ ↦ ?_
    refine .bind_same _ fun optional _ ↦ ?_
    exact .ok (Variable.toDatum_reworded kind _ _ variadic optional hts)

theorem Variable.readListAt_reworded {key : Text} (h : Fields.Reworded s.name t.name S f g)
    (hS : ∀ i n a, S (.key (.text key) :: .item i n :: a) → Variable.Site a) (kind place : Text) :
    SameOutcome
      (ListReworded s.name t.name (S.below (.key (.text key))) (Variable.toDatum kind))
      (Variable.readListAt kind place key f) (Variable.readListAt kind place key g) := by
  rw [Variable.readListAt_eq, Variable.readListAt_eq]
  refine (h.optionalList key _).bind fun xs ys hs ↦ ?_
  exact readEach_reworded hs (fun i n x y h ↦ Variable.read_reworded (hS i n) h kind) _

theorem Signature.site_args (hS : ∀ a, S a → Signature.Site a) (i n : Nat) (a : Address)
    (ha : S (.key (.text "args") :: .item i n :: a)) : Variable.Site a := by
  cases hS _ ha with
  | args _ _ h => exact h

/-- A signature with reworded arguments. -/
theorem Signature.toDatum_reworded {args args' : List Variable} (results : List Variable)
    (h : ListReworded s.name t.name (S.below (.key (.text "args"))) (Variable.toDatum "arg")
      args args') :
    FormsReworded s.name t.name S Signature.toDatum (.mk args results) (.mk args' results) := by
  rw [FormsReworded, Signature.toDatum, Signature.toDatum]
  simp only [Variable.toData_eq_map]
  exact .object (.cons (.same _ _) (.cons h.toDatum (.cons (.same _ _) .nil)))

theorem Signature.read_reworded (hS : ∀ a, S a → Signature.Site a)
    (h : Datum.Reworded s.name t.name S x y) (place : Text) :
    SameOutcome (FormsReworded s.name t.name S Signature.toDatum)
      (Signature.read place x) (Signature.read place y) := by
  cases h with
  | same => exact .refl FormsReworded.refl _
  | text => exact .error _
  | list => exact .error _
  | @map _ f g hkeys h =>
    have hfields : Fields.Reworded s.name t.name S f g :=
      Datum.Reworded.map_iff.mp (.map hkeys h)
    have hoff := hfields.agreeOff (Signature.Site.only hS)
    have hargs := Variable.readListAt_reworded hfields (Signature.site_args hS) "arg" place
    rw [Signature.read, Signature.read]
    simp (disch := simp) only [Variable.readListAt_eq place "result", hoff.optionalList]
    refine .bind_same _ fun _ _ ↦ ?_
    refine hargs.bind fun args args' hs ↦ ?_
    refine .bind_same _ fun results _ ↦ ?_
    exact .ok (Signature.toDatum_reworded results hs)

/-! ## Definitions -/

/-- A function with reworded signatures. -/
theorem Function.toDatum_reworded (d : Function) {signatures signatures' : List Signature}
    (h : ListReworded s.name t.name (S.below (.key (.text "signatures"))) Signature.toDatum
      signatures signatures') :
    FormsReworded s.name t.name S Function.toDatum { d with signatures := signatures }
      { d with signatures := signatures' } := by
  refine .object (.cons (.same _ _) (.cons (.same _ _) (.cons (.same _ _) (.cons (.same _ _)
    (.cons (.same _ _) (.cons (.same _ _) (.cons (.same _ _) (.cons h.toDatum ?_))))))))
  exact .refl (fun _ d ↦ .same _ d) _

theorem Property.site_signatures (hS : ∀ a, S a → Property.Site a) (i n : Nat) (a : Address)
    (ha : S (.key (.text "signatures") :: .item i n :: a)) : Signature.Site a := by
  have hsite := hS _ ha
  generalize haddress : Step.key (.text "signatures") :: .item i n :: a = address at hsite
  cases hsite with
  | signatures i n h =>
    simp at haddress
    rwa [haddress.2]
  | props k h => simp at haddress

theorem Function.read_reworded (hS : ∀ a, S a → Property.Site a)
    (h : Datum.Reworded s.name t.name S x y) (place : Text) :
    SameOutcome (FormsReworded s.name t.name S Function.toDatum)
      (Function.read place x) (Function.read place y) := by
  rw [Function.read, Function.read]
  refine (h.requireMap place).bind fun f g hfields ↦ ?_
  have hoff := hfields.agreeOff (Property.Site.only hS)
  simp (disch := simp) only [hoff.expectDef, hoff.requireText, hoff.optionalText,
    hoff.orEmptyText, hoff.numberOrNull, hoff.flag, Signature.readItems_eq]
  refine .bind_same _ fun _ _ ↦ ?_
  refine (hfields.require place "signatures").bind fun v w hvw ↦ ?_
  refine (hvw.requireList _).bind fun xs ys hs ↦ ?_
  have hsignatures := readEach_reworded hs (fun i n x y h ↦
    Signature.read_reworded (Property.site_signatures hS i n) h) (memberPlace place "signatures")
  have hempty : xs.isEmpty = ys.isEmpty := by cases hs <;> rfl
  rw [hempty]
  by_cases hys : ys.isEmpty = true
  · rw [if_pos hys, if_pos hys]
    exact .error _
  rw [if_neg hys, if_neg hys]
  refine .bind_same _ fun name _ ↦ ?_
  refine .bind_same _ fun link _ ↦ ?_
  refine hsignatures.bind fun signatures signatures' hs ↦ ?_
  refine .bind_same _ fun energy _ ↦ ?_
  refine .bind_same _ fun sleep _ ↦ ?_
  refine .bind_same _ fun mustUse _ ↦ ?_
  refine .bind_same _ fun restricted _ ↦ ?_
  refine .bind_same _ fun deprecated _ ↦ ?_
  refine .bind_same _ fun godMode _ ↦ ?_
  refine .bind_same _ fun lindenExperience _ ↦ ?_
  refine .bind_same _ fun takesSelf _ ↦ ?_
  exact .ok (Function.toDatum_reworded {
    name := name, desc := g.orEmptyText "desc", link := link, signatures := signatures
    energy := energy, sleep := sleep, mustUse := mustUse, restricted := restricted
    deprecated := deprecated, godMode := godMode, lindenExperience := lindenExperience
    takesSelf := takesSelf } hs)

/-- A constant has no arguments. -/
theorem Constant.read_reworded (hS : ∀ a, S a → Property.Site a)
    (h : Datum.Reworded s.name t.name S x y) (place : Text) :
    SameOutcome Eq (Constant.read place x) (Constant.read place y) := by
  rw [Constant.read, Constant.read]
  refine (h.requireMap place).bind fun f g hfields ↦ ?_
  have hoff := hfields.agreeOff (Property.Site.only hS)
  simp (disch := simp) only [hoff.expectDef, hoff.constantValue, hoff.requireText, hoff.require,
    hoff.optionalText, hoff.orEmptyText]
  exact .refl (fun _ ↦ rfl) _

theorem Property.site_props (hS : ∀ a, S a → Property.Site a) (k : Scalar) (a : Address)
    (ha : S (.key (.text "props") :: .key k :: a)) : Property.Site a := by
  have hsite := hS _ ha
  generalize haddress : Step.key (.text "props") :: .key k :: a = address at hsite
  cases hsite with
  | signatures i n h => simp at haddress
  | props k h =>
    simp at haddress
    rwa [haddress.2]

/-- The properties of a value class are constants, so there is nothing to reword. -/
theorem ValueClass.read_reworded (hS : ∀ a, S a → Property.Site a)
    (h : Datum.Reworded s.name t.name S x y) (place : Text) :
    SameOutcome Eq (ValueClass.read place x) (ValueClass.read place y) := by
  rw [ValueClass.read, ValueClass.read]
  refine (h.requireMap place).bind fun f g hfields ↦ ?_
  have hoff := hfields.agreeOff (Property.Site.only hS)
  simp (disch := simp) only [hoff.expectDef, hoff.optionalMap (memberPlace place "funcs"),
    hoff.requireText]
  refine .bind_same _ fun _ _ ↦ ?_
  refine .bind_same _ fun funcs _ ↦ ?_
  refine (hfields.optionalMap "props" _).bind fun props props' hprops ↦ ?_
  have hconstants : SameOutcome (EntriesRelated fun _ ↦ Eq)
      (readMembers Constant.read (memberPlace place "props") props)
      (readMembers Constant.read (memberPlace place "props") props') :=
    sameOutcome_readMembers hprops
      (fun k x y h ↦ Constant.read_reworded (Property.site_props hS (.text k)) h) _
  refine .bind_same _ fun name _ ↦ ?_
  refine .bind_same _ fun funcs _ ↦ ?_
  refine hconstants.bind fun props props' hprops ↦ ?_
  rw [hprops.eq]
  exact .ok rfl

/-! ## Properties and tables -/

/-- The table that the fields of an object stand for. -/
def Table.readFields (place : Text) (fields : Fields) : Except ShapeError Table := do
  let _ ← fields.optionalMap "props" (memberPlace place "props")
  let name ← fields.requireText place "name"
  return .mk name (← Property.readMapAt place "props" fields)

/-- Two values are read as properties with the same outcome. -/
def Property.ReadAlike (s t : SimpleType) (S : Sites) (x y : Datum) : Prop :=
  (∀ a, S a → Property.Site a) → ∀ place,
    SameOutcome (FormsReworded s.name t.name S Property.toDatum)
      (Property.read place x) (Property.read place y)

/-- Two values are read as the properties of a table with the same outcome. -/
def Property.MembersReadAlike (s t : SimpleType) (S : Sites) (x y : Datum) : Prop :=
  (∀ k a, S (.key k :: a) → Property.Site a) → ∀ place,
    SameOutcome (MapReworded s.name t.name S Property.toDatum)
      (do readMembers Property.read place (← x.requireMap place))
      (do readMembers Property.read place (← y.requireMap place))

/-- A table with reworded properties. -/
theorem Table.toDatum_reworded (name : Text) {props props' : List (Text × Property)}
    (h : MapReworded s.name t.name (S.below (.key (.text "props"))) Property.toDatum props props') :
    FormsReworded s.name t.name S Table.toDatum (.mk name props) (.mk name props') := by
  rw [FormsReworded, Table.toDatum, Table.toDatum, Table.map_toFields, Table.map_toFields]
  exact .object (.cons (.same _ _) (.cons (.same _ _) (.cons h.toDatum .nil)))

theorem Table.readFields_reworded (hS : ∀ a, S a → Property.Site a)
    (hfields : Fields.Reworded s.name t.name S f g)
    (hprops : EntriesRelated (fun k ↦ Property.MembersReadAlike s t (S.below (.key k))) f g)
    (place : Text) :
    SameOutcome (FormsReworded s.name t.name S Table.toDatum) (Table.readFields place f)
      (Table.readFields place g) := by
  have hoff := hfields.agreeOff (Property.Site.only hS)
  rw [Table.readFields, Table.readFields]
  simp (disch := simp) only [hoff.requireText, Property.readMapAt_eq]
  refine (hfields.optionalMap "props" _).bind fun _ _ _ ↦ ?_
  refine .bind_same _ fun name _ ↦ ?_
  rcases hprops.lookup (.text "props") with ⟨hf, hg⟩ | ⟨v, w, hf, hg, hvw⟩
  · have hf : Fields.get? f "props" = none := hf
    have hg : Fields.get? g "props" = none := hg
    rw [Fields.optionalMap, Fields.optionalMap, hf, hg]
    exact .ok (.same _ _)
  · have hf : Fields.get? f "props" = some v := hf
    have hg : Fields.get? g "props" = some w := hg
    rw [Fields.optionalMap, Fields.optionalMap, hf, hg]
    refine (hvw (Property.site_props hS) _).bind fun props props' h ↦ ?_
    exact .ok (Table.toDatum_reworded name h)

/-- Objects are read as properties with the same outcome if the properties in them are. -/
theorem Property.readAlike_of_fields (hfields : Fields.Reworded s.name t.name S f g)
    (hprops : EntriesRelated (fun k ↦ Property.MembersReadAlike s t (S.below (.key k))) f g) :
    Property.ReadAlike s t S (.map f) (.map g) := by
  intro hS place
  have hoff := hfields.agreeOff (Property.Site.only hS)
  have hmap : Datum.Reworded s.name t.name S (.map f) (.map g) :=
    Datum.Reworded.map_iff.mpr hfields
  rw [Property.read, Property.read]
  simp (disch := simp) only [hoff.get]
  split
  · next kind _ =>
    split
    · refine (Constant.read_reworded hS hmap place).bind fun c _ h ↦ ?_
      rw [h]
      exact .ok (.same _ _)
    split
    · exact (Function.read_reworded hS hmap place).bind fun _ _ h ↦ .ok h
    split
    · refine (ValueClass.read_reworded hS hmap place).bind fun c _ h ↦ ?_
      rw [h]
      exact .ok (.same _ _)
    split
    · have htable := (Table.readFields_reworded hS hfields hprops place).bind
        (Q := FormsReworded s.name t.name S Property.toDatum)
        (f := fun t ↦ pure (.table t)) (g := fun t ↦ pure (.table t)) fun _ _ h ↦ .ok h
      simpa only [Table.readFields, bind_assoc, pure_bind] using htable
    · exact .error _
  · exact .error _

/-- Members are read with the same outcome if each of them is. -/
theorem Property.membersReadAlike_of_entries
    (h : EntriesRelated (fun k ↦ Property.ReadAlike s t (S.below (.key k))) f g) :
    Property.MembersReadAlike s t S (.map f) (.map g) := by
  intro hS place
  exact sameOutcome_readMembers h (fun k x y h ↦ h (hS (.text k))) place

/-- Reworded values are read with the same outcome, as a property and as properties of a table. -/
theorem Property.readAlike (h : Datum.Reworded s.name t.name S x y) :
    Property.ReadAlike s t S x y ∧ Property.MembersReadAlike s t S x y := by
  -- both at once: a table is read from the members of one of its fields, which are two levels down
  induction h with
  | same S d => exact ⟨fun _ _ ↦ .refl FormsReworded.refl _, fun _ _ ↦ .refl MapReworded.refl _⟩
  | text S h => exact ⟨fun _ _ ↦ .error _, fun _ _ ↦ .error _⟩
  | list hlength h => exact ⟨fun _ _ ↦ .error _, fun _ _ ↦ .error _⟩
  | map hkeys h ih =>
    have hfields := entriesRelated_iff.mpr ⟨hkeys, h⟩
    have hentries := entriesRelated_iff.mpr ⟨hkeys, ih⟩
    exact ⟨readAlike_of_fields hfields (hentries.mono fun _ _ _ h ↦ h.2),
      membersReadAlike_of_entries (hentries.mono fun _ _ _ h ↦ h.1)⟩

/-- Reading a table is reading its fields. -/
theorem Table.read_map (place : Text) (fields : Fields) :
    Table.read place (.map fields) =
      (do fields.expectDef place "table"; Table.readFields place fields) := by
  rw [Table.read, Datum.requireMap, ok_bind]
  cases hdef : fields.expectDef place "table" with
  | error e => rfl
  | ok _ =>
    have hmark := Fields.get_of_expectDef place hdef
    rw [Property.read, hmark]
    simp [Table.readFields]

theorem Table.read_reworded (hS : ∀ a, S a → Property.Site a)
    (h : Datum.Reworded s.name t.name S x y) (place : Text) :
    SameOutcome (FormsReworded s.name t.name S Table.toDatum)
      (Table.read place x) (Table.read place y) := by
  cases h with
  | same => exact .refl FormsReworded.refl _
  | text => exact .error _
  | list => exact .error _
  | @map _ f g hkeys h =>
    have hfields : Fields.Reworded s.name t.name S f g :=
      Datum.Reworded.map_iff.mp (.map hkeys h)
    have hoff := hfields.agreeOff (Property.Site.only hS)
    rw [Table.read_map, Table.read_map]
    simp (disch := simp) only [hoff.expectDef]
    refine .bind_same _ fun _ _ ↦ ?_
    exact readFields_reworded hS hfields
      (EntriesRelated.mono hfields fun _ _ _ h ↦ (Property.readAlike h).2) place

/-! ## Documents -/

/-- An event with reworded arguments. -/
theorem Event.toDatum_reworded (e : Event) {args args' : List Variable}
    (h : ListReworded s.name t.name (S.below (.key (.text "args"))) (Variable.toDatum "arg")
      args args') :
    FormsReworded s.name t.name S Event.toDatum { e with args := args }
      { e with args := args' } := by
  rw [FormsReworded, Event.toDatum, Event.toDatum]
  simp only [Variable.toData_eq_map]
  exact .object (.cons (.same _ _) (.cons (.same _ _) (.cons (.same _ _) (.cons (.same _ _)
    (.cons h.toDatum .nil)))))

theorem Event.read_reworded (hS : ∀ a, S a → Signature.Site a)
    (h : Datum.Reworded s.name t.name S x y) (place : Text) :
    SameOutcome (FormsReworded s.name t.name S Event.toDatum)
      (Event.read place x) (Event.read place y) := by
  rw [Event.read, Event.read]
  refine (h.requireMap place).bind fun f g hfields ↦ ?_
  have hoff := hfields.agreeOff (Signature.Site.only hS)
  have hargs := Variable.readListAt_reworded hfields (Signature.site_args hS) "arg" place
  simp (disch := simp) only [hoff.expectDef, hoff.requireText, hoff.optionalText,
    hoff.orEmptyText]
  refine .bind_same _ fun _ _ ↦ ?_
  refine .bind_same _ fun name _ ↦ ?_
  refine .bind_same _ fun link _ ↦ ?_
  refine hargs.bind fun args args' hs ↦ .ok ?_
  exact Event.toDatum_reworded ⟨name, g.orEmptyText "desc", link.getD [], args⟩ hs

theorem Document.site_globalTable (hS : ∀ a, S a → Document.Site a) (a : Address)
    (ha : S (.key (.text "global") :: a)) : Property.Site a := by
  have hsite := hS _ ha
  generalize haddress : Step.key (.text "global") :: a = address at hsite
  cases hsite with
  | globalTable h =>
    simp at haddress
    rwa [haddress]
  | events k h => simp at haddress

theorem Document.site_events (hS : ∀ a, S a → Document.Site a) (k : Scalar) (a : Address)
    (ha : S (.key (.text "events") :: .key k :: a)) : Signature.Site a := by
  have hsite := hS _ ha
  generalize haddress : Step.key (.text "events") :: .key k :: a = address at hsite
  cases hsite with
  | globalTable h => simp at haddress
  | events k h =>
    simp at haddress
    rwa [haddress.2]

/-- A document with the name of one simple type in the place of another at some types of arguments
is read with the same outcome, and then the difference is the same. -/
theorem Document.read_reworded (hS : ∀ a, S a → Document.Site a)
    (h : Datum.Reworded s.name t.name S x y) :
    SameOutcome (FormsReworded s.name t.name S Document.toDatum)
      (Document.read x) (Document.read y) := by
  rw [Document.read, Document.read]
  refine (h.requireMap "document").bind fun f g hfields ↦ ?_
  have hoff := hfields.agreeOff (Document.Site.only hS)
  simp (disch := simp) only [hoff.optionalMap "types", hoff.optionalMap "classes"]
  refine .bind_same _ fun types _ ↦ ?_
  refine .bind_same _ fun classes _ ↦ ?_
  refine (hfields.optionalMap "events" _).bind fun events events' hevents ↦ ?_
  refine (hfields.require "document" "global").bind fun v w hvw ↦ ?_
  refine (Table.read_reworded (Document.site_globalTable hS) hvw "global").bind
    fun table table' htable ↦ ?_
  refine .bind_same _ fun types _ ↦ ?_
  refine .bind_same _ fun classes _ ↦ ?_
  refine (readMembers_reworded hevents (fun k x y h ↦
    Event.read_reworded (Document.site_events hS (.text k)) h) _).bind
    fun events events' hevents ↦ .ok ?_
  exact .object (.cons htable (.cons (.same _ _) (.cons (.same _ _) (.cons hevents.toDatum .nil))))

/-- Documents with reworded plain forms are overridden with the same outcome. -/
theorem Document.overridden_reworded (hS : ∀ a, S a → Document.Site a) {d d' : Document}
    (h : FormsReworded s.name t.name S Document.toDatum d d') (patches : List Patch) :
    SameOutcome (FormsReworded s.name t.name S Document.toDatum)
      (d.overridden patches) (d'.overridden patches) :=
  override_reworded (fun _ _ ↦ Document.read_reworded hS) h patches

end ScriptDefs
