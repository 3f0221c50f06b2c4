import ScriptDefs.Proofs.Data.JsonForm
import ScriptDefs.Proofs.Keywords.Arguments
import ScriptDefs.Proofs.Remap.Modes

/-!
# Errors of indented documents

The extraction from an indented document skips what it cannot use and goes on. It ends without a
catalogue for four reasons: a section or an entry is no mapping, the arguments of an entry are a
value without parts, the text of an integer constant has too many digits, or the document holds an
integer with too many digits.
-/

namespace ScriptDefs.Keywords

open Catalogue

/-- A number with too many digits stopped the extraction, though a condition rules them out. -/
def Overlong (P : Prop) (e : DataError) : Prop := (∃ l, e = .digitLimit l) ∧ ¬P

-- the condition of what follows is that the document has no integer with too many digits
variable {P : Prop}

/-! ## Texts -/

/-- Showing something stops the extraction only where the condition fails. -/
theorem withinLimit_recovers {α : Type} {writable : Prop} {x : Except DigitLimit α}
    (hx : SucceedsIff writable .writing (fun _ ↦ True) x) (h : P → writable) :
    Outcome (fun _ ↦ True) (Overlong P) (withinLimit x) :=
  Outcome.mapError (hx.mono fun _ _ ↦ trivial) fun _ he ↦ ⟨⟨_, rfl⟩, fun hp ↦ he.1 (h hp)⟩

section Texts

variable {d : Datum} (h : P → d.isWritable = true)
include h

theorem display?_recovers : Outcome (fun _ ↦ True) (Overlong P) (withinLimit d.display?) :=
  withinLimit_recovers d.display?_outcome h

theorem expression?_recovers :
    Outcome (fun _ ↦ True) (Overlong P) (withinLimit d.expression?) :=
  withinLimit_recovers d.expression?_outcome h

theorem fieldText_recovers : Outcome (fun _ ↦ True) (Overlong P) (fieldText d) := by
  rw [fieldText.eq_def]
  split
  · exact .ok trivial
  · exact .ok trivial
  · exact display?_recovers h

end Texts

section Fields

variable {fields : Fields} (h : P → (Datum.map fields).isWritable = true)
include h

theorem get_recovers (key : Text) : P → (fields.get key).isWritable = true :=
  fun hp ↦ Datum.inherited_isWritable.get (h hp) key

theorem dataDescription_recovers :
    Outcome (fun _ ↦ True) (Overlong P) (dataDescription fields) :=
  (fieldText_recovers (get_recovers h "tooltip")).bind fun _ _ ↦ .ok trivial

end Fields

/-! ## Arguments -/

theorem entryFields?_writable {d : Datum} {fields : Fields} (h : entryFields? d = some fields)
    (hd : d.isWritable = true) : (Datum.map fields).isWritable = true := by
  have hopened := Datum.isWritable_opened hd
  unfold entryFields? at h
  split at h
  · cases h
    rfl
  · next hmap =>
    cases h
    rwa [hmap] at hopened
  · cases h

theorem dataArgument_recovers (owner : Text) (i : Nat) {item : Datum}
    (h : P → item.isWritable = true) :
    Outcome (fun _ ↦ True) (Overlong P) (dataArgument owner i item) := by
  have hmalformed : Outcome (fun _ ↦ True) (Overlong P) (do
      let shown ← withinLimit item.expression?
      return some (.inr (malformedArgument.emit owner (malformedDetail i shown))) :
        Except DataError ArgumentItem) :=
    (expression?_recovers h).bind fun _ _ ↦ .ok trivial
  rw [dataArgument]
  split
  · next name d hopened =>
    have hentry (hp : P) : (Scalar.isWritable name = true) ∧ d.isWritable = true := by
      have hmap := Datum.isWritable_opened (h hp)
      rw [hopened, Datum.isWritable, Datum.entriesAreWritable_iff] at hmap
      exact hmap (name, d) List.mem_cons_self
    split
    · next definition hdefinition =>
      have hname (hp : P) : (Datum.scalar name).isWritable = true := (hentry hp).1
      refine (display?_recovers hname).bind fun _ _ ↦ ?_
      refine (dataDescription_recovers fun hp ↦ ?_).bind fun _ _ ↦ .ok trivial
      exact entryFields?_writable hdefinition (hentry hp).2
    · exact hmalformed
  · exact hmalformed

theorem dataItems_recovers (owner : Text) (i : Nat) {items : List Datum}
    (h : ∀ d ∈ items, P → d.isWritable = true) :
    Outcome (fun _ ↦ True) (Overlong P) (dataItems owner i items).result := by
  induction items generalizing i with
  | nil => exact .ok trivial
  | cons item items ih =>
    obtain ⟨hitem, hitems⟩ := List.forall_mem_cons.mp h
    simp only [dataItems, Traced.result_bind, Traced.result_note, ok_bind]
    exact (dataArgument_recovers owner i hitem).bind fun _ _ ↦
      (ih (i + 1) hitems).bind fun _ _ ↦ .ok trivial

theorem isWritable_byte (x : UInt8) : (Datum.int x.toNat).isWritable = true := by
  have hpow (m : Nat) (hm : 3 ≤ m) : 256 ≤ Nat.pow 10 m :=
    Nat.le_trans (by decide) (Nat.pow_le_pow_right (Nat.zero_lt_succ 9) hm)
  rw [Datum.isWritable]
  unfold Scalar.isWritable
  rw [decide_eq_true_iff]
  exact Nat.lt_of_lt_of_le x.toNat_lt (hpow DigitLimit.limit (by decide))

/-- The items of a value are parts of it; only values without parts have none. -/
theorem itemsOf_recovers {d : Datum} (h : P → d.isWritable = true) :
    Outcome (fun items ↦ ∀ x ∈ items, P → x.isWritable = true) (fun e ↦ ∃ k, e = .notIterable k)
      (itemsOf d) := by
  have hopened (hp : P) := Datum.isWritable_opened (h hp)
  rw [itemsOf]
  split
  · exact .ok (List.forall_mem_nil _)
  split
  · next heq =>
    refine .ok fun x hx hp ↦ ?_
    have hitems := hopened hp
    rw [heq, Datum.isWritable, Datum.areWritable_iff] at hitems
    exact hitems x hx
  · next heq =>
    refine .ok fun x hx hp ↦ ?_
    have hpair := hopened hp
    rw [heq, Datum.isWritable, Bool.and_eq_true] at hpair
    rcases List.mem_pair.mp hx with rfl | rfl
    · exact hpair.1
    · exact hpair.2
  · next heq =>
    refine .ok (List.forall_mem_map.mpr fun s hs hp ↦ ?_)
    have hmembers := hopened hp
    rw [heq, Datum.isWritable, List.all_eq_true] at hmembers
    exact hmembers s hs
  · next heq =>
    refine .ok (List.forall_mem_map.mpr fun e he hp ↦ ?_)
    have hentries := hopened hp
    rw [heq, Datum.isWritable, Datum.entriesAreWritable_iff] at hentries
    exact (hentries e he).1
  · exact .ok (List.forall_mem_map.mpr fun _ _ _ ↦ rfl)
  · exact .ok (List.forall_mem_map.mpr fun x _ _ ↦ isWritable_byte x)
  · exact .error ⟨_, rfl⟩

/-- The arguments of an entry stop the extraction: they have an integer with too many digits, or
have no items. -/
def ArgumentsFault (P : Prop) (fields : Fields) (e : DataError) : Prop :=
  Overlong P e ∨ ∃ k, e = .notIterable k ∧ itemsOf (fields.get "arguments") = .error e

section Entries

variable {fields : Fields} (h : P → (Datum.map fields).isWritable = true)
include h

theorem dataArguments_recovers (owner : Text) :
    Outcome (fun _ ↦ True) (ArgumentsFault P fields) (dataArguments owner fields).result := by
  have hitems : Outcome (fun items ↦ ∀ x ∈ items, P → x.isWritable = true)
      (ArgumentsFault P fields) (itemsOf (fields.get "arguments")) :=
    ((itemsOf_recovers (get_recovers h "arguments")).self.mono fun _ ↦ And.left).mono_error
      fun e ⟨⟨k, hk⟩, he⟩ ↦ .inr ⟨k, hk, he⟩
  simp only [dataArguments, Traced.result_bind]
  exact hitems.bind fun items hwritable ↦
    ((dataItems_recovers owner 0 hwritable).mono_error fun _ ↦ .inl).bind fun _ _ ↦ .ok trivial

/-! ## Definitions -/

theorem dataFunction_recovers (effects : EffectTable) (name : Text) :
    Outcome (fun _ ↦ True) (ArgumentsFault P fields) (dataFunction effects name fields).result := by
  simp only [dataFunction, Traced.result_bind]
  refine (dataArguments_recovers h name).bind fun _ _ ↦ ?_
  exact ((dataDescription_recovers h).mono_error fun _ ↦ .inl).bind fun _ _ ↦ .ok trivial

theorem dataEvent_recovers (name : Text) :
    Outcome (fun _ ↦ True) (ArgumentsFault P fields) (dataEvent name fields).result := by
  simp only [dataEvent, Traced.result_bind]
  refine (dataArguments_recovers h name).bind fun _ _ ↦ ?_
  exact ((dataDescription_recovers h).mono_error fun _ ↦ .inl).bind fun _ _ ↦ .ok trivial

/-- A constant stops the extraction: it has an integer with too many digits, or is an integer whose
text has. -/
def ConstantFault (P : Prop) (fields : Fields) (e : DataError) : Prop :=
  Overlong P e ∨ ∃ raw l, e = .digitLimit l ∧ fieldText (fields.get "value") = .ok raw ∧
    fields.get "type" = .text "integer" ∧ raw.leadingInt? = .error l

theorem castDiagnostics_recovers (name raw : Text) (problem : Option DiagnosticRule) :
    Outcome (fun _ ↦ True) (Overlong P)
      (castDiagnostics name raw (fields.get "type") problem) := by
  rw [castDiagnostics.eq_def]
  split
  · exact .ok trivial
  · exact (expression?_recovers (get_recovers h "type")).bind fun _ _ ↦ .ok trivial

theorem dataConstant_recovers (name : Text) :
    Outcome (fun _ ↦ True) (ConstantFault P fields) (dataConstant name fields).result := by
  simp only [dataConstant, Traced.result_bind, Traced.result_note, ok_bind]
  have htext := (fieldText_recovers (get_recovers h "value")).self
  refine (htext.mono_error fun _ he ↦ .inl he.1).bind fun raw ⟨_, hraw⟩ ↦ ?_
  have hcast : Outcome (CastTo raw) (ConstantFault P fields)
      (withinLimit (castConstant raw (fields.get "type"))) :=
    (castConstant_castTo raw _).mapError fun l ⟨htype, hl⟩ ↦ .inr ⟨raw, l, rfl, hraw, htype, hl⟩
  refine hcast.bind fun ⟨value, problem⟩ _ ↦ ?_
  refine ((castDiagnostics_recovers h name raw problem).mono_error fun _ ↦ .inl).bind fun _ _ ↦ ?_
  exact ((dataDescription_recovers h).mono_error fun _ ↦ .inl).bind fun _ _ ↦ .ok trivial

end Entries

/-! ## Sections -/

/-- A section stops the extraction: it or one of its entries is no mapping, or the key of such an
entry has too many digits. -/
def SectionFault (P : Prop) (e : DataError) : Prop := e.isOfForm = true ∨ Overlong P e

theorem sectionEntries_recovers (name : Text) {fields : Fields}
    (h : P → (Datum.map fields).isWritable = true) :
    Outcome (fun entries ↦ ∀ e ∈ entries, P → (Datum.map e.2).isWritable = true) (SectionFault P)
      (sectionEntries name fields) := by
  induction fields with
  | nil => exact .ok (List.forall_mem_nil _)
  | cons e fields ih =>
    obtain ⟨key, d⟩ := e
    have hall (hp : P) := (Datum.inherited_isWritable.map _).mp (h hp)
    have hkey (hp : P) := (hall hp (key, d) List.mem_cons_self).1
    have hd (hp : P) := (hall hp (key, d) List.mem_cons_self).2
    have hrest (hp : P) := (Datum.inherited_isWritable.map _).mpr
      fun e he ↦ hall hp e (List.mem_cons_of_mem _ he)
    rw [sectionEntries]
    split
    · exact ((expression?_recovers hkey).mono_error fun _ ↦ .inr).bind fun _ _ ↦ .error (.inl rfl)
    · next definition hdefinition =>
      refine ((display?_recovers hkey).mono_error fun _ ↦ .inr).bind fun _ _ ↦ ?_
      refine (ih hrest).bind fun entries hentries ↦ .ok ?_
      exact List.forall_mem_cons.mpr
        ⟨fun hp ↦ entryFields?_writable hdefinition (hd hp), hentries⟩

theorem dataSection_recovers (name : Text) {data : Fields}
    (h : P → (Datum.map data).isWritable = true) :
    Outcome (fun entries ↦ ∀ e ∈ entries, P → (Datum.map e.2).isWritable = true) (SectionFault P)
      (dataSection data name) := by
  rw [dataSection]
  split
  · exact .ok (List.forall_mem_nil _)
  split
  · next fields hopened =>
    refine sectionEntries_recovers name fun hp ↦ ?_
    exact hopened ▸ Datum.isWritable_opened (get_recovers h name hp)
  · exact .error (.inl rfl)

/-- The definitions of a section are read up to the first that stops the extraction. -/
theorem readSection_recovers {α β : Type} {read : Text → β → Traced Diagnostic DataError α}
    {E : β → DataError → Prop} {definitions : List (Text × β)}
    (h : ∀ d ∈ definitions, Outcome (fun _ ↦ True) (E d.2) (read d.1 d.2).result) :
    Outcome (fun _ ↦ True) (fun e ↦ ∃ d ∈ definitions, E d.2 e)
      (readSection read definitions).result := by
  have hentries : Outcome (fun _ ↦ True) (fun e ↦ ∃ d ∈ definitions, E d.2 e)
      (readEntries read definitions).result := by
    induction definitions with
    | nil => exact .ok trivial
    | cons d definitions ih =>
      obtain ⟨hd, hdefinitions⟩ := List.forall_mem_cons.mp h
      simp only [readEntries, Traced.result_bind]
      refine (hd.mono_error fun e he ↦ ⟨d, List.mem_cons_self, he⟩).bind fun _ _ ↦ ?_
      refine ((ih hdefinitions).mono_error fun e he ↦ ?_).bind fun _ _ ↦ .ok trivial
      obtain ⟨x, hx, he⟩ := he
      exact ⟨x, List.mem_cons_of_mem _ hx, he⟩
  simp only [readSection, Traced.result_bind]
  exact hentries.bind fun _ _ ↦ .ok trivial

theorem dataTable_recovers {α : Type}
    {read : Text → Fields → Traced Diagnostic DataError α}
    {E : Fields → DataError → Prop} {data : Fields} (h : P → (Datum.map data).isWritable = true)
    (hread : ∀ {fields : Fields}, (P → (Datum.map fields).isWritable = true) → ∀ name,
      Outcome (fun _ ↦ True) (E fields) (read name fields).result) (name : Text) :
    Outcome (fun _ ↦ True) (fun e ↦ SectionFault P e ∨
        ∃ entries, dataSection data name = .ok entries ∧ ∃ d ∈ entries, E d.2 e)
      (dataTable read data name).result := by
  simp only [dataTable, Traced.result_bind]
  refine ((dataSection_recovers name h).self.mono_error fun _ he ↦ .inl he.1).bind
    fun entries ⟨hentries, heq⟩ ↦ ?_
  refine (readSection_recovers fun d hd ↦ hread (hentries d hd) d.1).mono_error fun e he ↦ ?_
  exact .inr ⟨entries, heq, he⟩

/-- Why an indented document has no catalogue. -/
inductive DataFault (data : Fields) : DataError → Prop where
  /-- A section or an entry is no mapping. -/
  | form {e : DataError} (h : e.isOfForm = true) : DataFault data e
  /-- The arguments of a function or an event are a value without parts. -/
  | arguments {name : Text} {entries : List (Text × Fields)} {d : Text × Fields} {k : DatumKind}
    (hname : name ∈ [Text.ofString "functions", Text.ofString "events"])
    (hentries : dataSection data name = .ok entries) (hd : d ∈ entries)
    (h : itemsOf (d.2.get "arguments") = .error (.notIterable k)) : DataFault data (.notIterable k)
  /-- The text of an integer constant has too many digits. -/
  | constant {entries : List (Text × Fields)} {d : Text × Fields} {raw : Text} {l : DigitLimit}
    (hentries : dataSection data "constants" = .ok entries) (hd : d ∈ entries)
    (hraw : fieldText (d.2.get "value") = .ok raw) (htype : d.2.get "type" = .text "integer")
    (h : raw.leadingInt? = .error l) : DataFault data (.digitLimit l)
  /-- An integer of the document has too many digits. -/
  | digits {l : DigitLimit} (h : (Datum.map data).isWritable = false) :
    DataFault data (.digitLimit l)

section Faults

variable {data : Fields} {e : DataError}

theorem DataFault.of_overlong (h : Overlong ((Datum.map data).isWritable = true) e) :
    DataFault data e := by
  obtain ⟨⟨l, rfl⟩, hdata⟩ := h
  exact .digits (by simpa using hdata)

theorem DataFault.of_section (h : SectionFault ((Datum.map data).isWritable = true) e) :
    DataFault data e := by
  rcases h with hform | hdigits
  · exact .form hform
  · exact .of_overlong hdigits

end Faults

/-- The extraction from an indented document has a result, or an error with a cause in the
document. -/
theorem ofData_recovers (effects : EffectTable) (data : Fields) :
    Outcome (fun _ ↦ True) (DataFault data) (ofData effects data).result := by
  have hself : (Datum.map data).isWritable = true → (Datum.map data).isWritable = true := id
  have harguments {name : Text} (hname : name ∈ [Text.ofString "functions", Text.ofString "events"])
      (e : DataError) (he : SectionFault ((Datum.map data).isWritable = true) e ∨
        ∃ entries, dataSection data name = .ok entries ∧
          ∃ d ∈ entries, ArgumentsFault ((Datum.map data).isWritable = true) d.2 e) :
      DataFault data e := by
    rcases he with he | ⟨entries, hentries, d, hd, hdigits | ⟨k, rfl, hitems⟩⟩
    · exact .of_section he
    · exact .of_overlong hdigits
    · exact .arguments hname hentries hd hitems
  simp only [ofData, Traced.result_bind]
  refine ((dataTable_recovers hself (fun h ↦ dataFunction_recovers h effects) _).mono_error
    (harguments (by simp))).bind fun _ _ ↦ ?_
  refine ((dataTable_recovers hself (fun h ↦ dataConstant_recovers h) _).mono_error
    fun e he ↦ ?_).bind fun _ _ ↦ ?_
  · rcases he with he | ⟨entries, hentries, d, hd, hdigits | ⟨raw, l, rfl, hraw, htype, hl⟩⟩
    · exact .of_section he
    · exact .of_overlong hdigits
    · exact .constant hentries hd hraw htype hl
  refine ((dataTable_recovers hself (fun h ↦ dataEvent_recovers h) _).mono_error
    (harguments (by simp))).bind fun _ _ ↦ .ok trivial

end ScriptDefs.Keywords
