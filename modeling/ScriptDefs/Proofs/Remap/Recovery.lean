import ScriptDefs.Proofs.Keywords.Recovery
import ScriptDefs.Proofs.Remap.UnknownTypes

/-!
# Builds from indented documents

What becomes of an indented document that holds anything at all: a typed document, or an error. The
errors that are reported concern the form of the document or a declared type without an image. The
others escape: arguments that are a value without parts, declared types that are collections, and
integers with too many digits.
-/

namespace ScriptDefs

namespace Remap

/-- Why a declared type has no image: it is unknown, or a collection and no name at all. -/
inductive TypeFault (t : Datum) : RemapError → Prop where
  | unknown (h : isUnknown t = true) : TypeFault t (.unknownType t)
  | notAName (h : ∀ s, t ≠ .scalar s) : TypeFault t (.notAName t)

theorem sourceType_recovers (declared : Datum) :
    Outcome (fun _ ↦ True) (TypeFault declared) (sourceType declared) := by
  cases declared with
  | scalar s =>
    by_cases hname : (Datum.scalar s).IsNameOrNull
    · rcases (sourceType_needs hname).result with ⟨_, image, himage⟩ | ⟨t, ht, herror⟩
      · rw [himage]
        exact .ok trivial
      · obtain rfl := List.mem_singleton.mp (List.mem_of_find?_eq_some ht)
        rw [herror]
        exact .error (.unknown (List.find?_some ht))
    · cases s with
      | null | text t => exact absurd trivial hname
      | _ => exact .error (.unknown rfl)
  | _ => exact .error (.notAName (by simp))

/-- A declared type that is demanded stops the remapping. -/
def Fault (c : Catalogue) (e : RemapError) : Prop := ∃ t, Demanded c t ∧ TypeFault t e

section Definitions

variable {c : Catalogue}

theorem arguments_recovers (mode : RemapMode) {args : List Catalogue.Argument}
    (h : ∀ a ∈ args, Demanded c a.type) :
    Outcome (fun _ ↦ True) (Fault c) (arguments mode args) := by
  refine .mapM_ends fun a ha ↦ ?_
  have himage := (sourceType_recovers a.type).mono_error fun e he ↦
    (⟨a.type, h a ha, he⟩ : Fault c e)
  exact (himage.returns _).returns _

theorem resultTypes_recovers {declared : Datum} (h : declared ≠ .null → Demanded c declared) :
    Outcome (fun _ ↦ True) (Fault c) (resultTypes declared) := by
  rw [resultTypes.eq_def]
  split
  · exact .ok trivial
  · next hne =>
    have himage := (sourceType_recovers declared).mono_error fun e he ↦
      (⟨declared, h hne, he⟩ : Fault c e)
    exact himage.returns _

theorem functions_recovers (mode : RemapMode) :
    Outcome (fun _ ↦ True) (Fault c) (functions mode c) := by
  refine (Outcome.mapM_ends fun f hf ↦ ?_).returns _
  obtain ⟨e, he, rfl⟩ := List.mem_map.mp hf
  refine (arguments_recovers mode fun a ha ↦ .argument he ha).bind fun _ _ ↦ ?_
  exact (resultTypes_recovers (.result he)).returns _

theorem constants_recovers : Outcome (fun _ ↦ True) (Fault c) (constants c) := by
  refine .mapM_ends fun e he ↦ ?_
  have he : e ∈ c.constants := (List.mergeSort_perm _ _).mem_iff.mp he
  have himage := (sourceType_recovers e.2.type).mono_error fun error herror ↦
    (⟨e.2.type, .constant he, herror⟩ : Fault c error)
  exact ((himage.returns _).returns _).returns _

theorem events_recovers (mode : RemapMode) :
    Outcome (fun _ ↦ True) (Fault c) (events mode c) := by
  refine .mapM_ends fun e he ↦ ?_
  obtain ⟨he, hname⟩ := mem_keptEvents.mp he
  have hargs := arguments_recovers mode fun a ha ↦ Demanded.eventArgument he hname ha
  exact (hargs.returns _).returns _

/-- A catalogue has a typed document, or a demanded type without an image, whatever its declared
types are. -/
theorem toDocument_recovers (mode : RemapMode) (builtins : Builtins) :
    Outcome (fun _ ↦ True) (Fault c) (c.toDocument mode builtins) :=
  (functions_recovers mode).bind fun _ _ ↦ constants_recovers.bind fun _ _ ↦
    (events_recovers mode).returns _

end Definitions

end Remap

namespace Build

/-- The typed document of what is extracted from an indented document, without patches. -/
def recovered (mode : RemapMode) (builtins : Builtins) (effects : Catalogue.EffectTable)
    (data : Fields) : Except BuildError Document := do
  let c ← (Keywords.ofData effects data).result.mapError fun e ↦ .load (.data e)
  (remapped { mode } builtins c).result

/-- Errors that are reported: the form of the document, or a declared type that is unknown. -/
inductive Refusal (effects : Catalogue.EffectTable) (data : Fields) : BuildError → Prop where
  | form {e : Keywords.DataError} (h : e.isOfForm = true) : Refusal effects data (.load (.data e))
  | unknownType {notes : List Keywords.Note} {c : Catalogue} {t : Datum}
    (hc : Keywords.ofData effects data = ⟨notes, .ok c⟩) (ht : Remap.Demanded c t)
    (h : Remap.isUnknown t = true) : Refusal effects data (.remap (.unknownType t))

/-- Errors that escape: arguments without parts, too many digits in the document or in the text of
a constant, a declared type that is a collection, or an unknown one that is an integer with too many
digits. -/
inductive Escape (effects : Catalogue.EffectTable) (data : Fields) : BuildError → Prop where
  | data {e : Keywords.DataError} (h : Keywords.DataFault data e) (hform : e.isOfForm = false) :
    Escape effects data (.load (.data e))
  | notAName {notes : List Keywords.Note} {c : Catalogue} {t : Datum}
    (hc : Keywords.ofData effects data = ⟨notes, .ok c⟩) (ht : Remap.Demanded c t)
    (h : ∀ s, t ≠ .scalar s) : Escape effects data (.remap (.notAName t))
  | digits {notes : List Keywords.Note} {c : Catalogue} {t : Datum}
    (hc : Keywords.ofData effects data = ⟨notes, .ok c⟩) (ht : Remap.Demanded c t)
    (h : t.isWritable = false) : Escape effects data (.remap (.unknownType t))

/-- An error is reported and concerns the form of the document or an unknown type, or it escapes
without a report. -/
def Ends (effects : Catalogue.EffectTable) (data : Fields) (e : BuildError) : Prop :=
  (Refusal effects data e ∧ e.report?.isSome) ∨ (Escape effects data e ∧ e.report? = none)

section Ends

variable {effects : Catalogue.EffectTable} {data : Fields}

theorem ends_of_dataFault {e : Keywords.DataError} (h : Keywords.DataFault data e) :
    Ends effects data (.load (.data e)) := by
  cases hform : e.isOfForm with
  | true =>
    refine .inl ⟨.form hform, ?_⟩
    rw [BuildError.report?, Keywords.LoadError.report?, if_pos hform]
    cases e with
    | sectionNotMapping _ | entryNotMapping _ _ => rfl
    | notIterable _ | digitLimit _ => cases hform
  | false =>
    refine .inr ⟨.data h hform, ?_⟩
    rw [BuildError.report?, Keywords.LoadError.report?, hform]
    rfl

theorem ends_of_fault {notes : List Keywords.Note} {c : Catalogue}
    (hc : Keywords.ofData effects data = ⟨notes, .ok c⟩) {e : RemapError} (h : Remap.Fault c e) :
    Ends effects data (.remap e) := by
  obtain ⟨t, ht, h⟩ := h
  cases h with
  | notAName h => exact .inr ⟨.notAName hc ht h, rfl⟩
  | unknown h =>
    -- the wording shows the type
    cases hwritable : t.isWritable with
    | true =>
      refine .inl ⟨.unknownType hc ht h, ?_⟩
      rw [BuildError.report?, RemapError.report?, RemapError.message, Datum.expression?,
        if_pos hwritable]
      rfl
    | false =>
      refine .inr ⟨.digits hc ht hwritable, ?_⟩
      rw [BuildError.report?, RemapError.report?, RemapError.message, Datum.expression?, hwritable]
      rfl

end Ends

/-- Any indented document in any mode has a typed document or an error with a cause. An error of
form and an unknown type are reported; an error that escapes comes from arguments without parts,
from a collection as a declared type, or from too many digits. -/
theorem recovered_outcome (mode : RemapMode) (builtins : Builtins)
    (effects : Catalogue.EffectTable) (data : Fields) :
    Outcome (fun _ ↦ True) (Ends effects data) (recovered mode builtins effects data) := by
  have hfault (e : Keywords.DataError) (he : Keywords.DataFault data e) :
      Ends effects data (.load (.data e)) := ends_of_dataFault he
  have hextracted := (Keywords.ofData_recovers effects data).self.mapError
    (f := fun e ↦ BuildError.load (.data e)) fun e he ↦ hfault e he.1
  rw [recovered]
  refine hextracted.bind fun c ⟨_, hc⟩ ↦ ?_
  have hcatalogue : Keywords.ofData effects data =
      ⟨(Keywords.ofData effects data).notes, .ok c⟩ := by rw [← hc]
  have hdocument := (Remap.toDocument_recovers (c := c) mode builtins).mapError
    (f := BuildError.remap) fun e he ↦ ends_of_fault hcatalogue he
  rw [remapped_result]
  exact hdocument.bind fun d _ ↦ .ok trivial

/-- A result type that is a list ends the build with an error that is neither of form nor of an
unknown type. -/
theorem recovered_escapes :
    ¬ ∀ mode builtins effects data e, recovered mode builtins effects data = .error e →
      (∃ d, e = .load (.data d) ∧ d.isOfForm = true) ∨ ∃ t, e = .remap (.unknownType t) := by
  intro h
  let function : Datum := .object [("return", .list [.text "integer"])]
  let data : Fields := [(.text "functions", .object [("llFoo", function)])]
  rcases h .strict {} [] data (.remap (.notAName (.list [.text "integer"]))) rfl with
    ⟨_, heq, _⟩ | ⟨_, heq⟩
  · cases heq
  · cases heq

end Build

end ScriptDefs
