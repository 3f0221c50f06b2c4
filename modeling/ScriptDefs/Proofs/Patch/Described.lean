import ScriptDefs.Patch.Read
import ScriptDefs.Proofs.Data.Json.Ascii
import ScriptDefs.Proofs.Data.Json.Reading

/-!
# Descriptions of patches

An error that names a patch shows it as its record on one line of ASCII. Between brackets, this line is
read as the one patch. The patch has no description only if one of its integers has too many digits, and
no patch that is read from a text has such an integer.
-/

namespace ScriptDefs

/-- A scalar that is no text has a JSON form whatever is asked of texts. -/
theorem Datum.isJson_scalar {P : Text → Prop} {s : Scalar}
    (h : s.kind ∉ [.text, .date, .moment, .bytes]) : (Datum.scalar s).IsJson P := by
  refine .scalar (fun hkind ↦ h (List.mem_cons_of_mem _ hkind)) fun t ht ↦ ?_
  subst ht
  exact absurd List.mem_cons_self h

namespace Segment

theorem ofDatum_toDatum (s : Segment) : ofDatum s.toDatum = .ok s := by
  cases s <;> rfl

/-- A segment is read from nothing but its plain form. -/
theorem toDatum_of_ofDatum {d : Datum} {s : Segment} (h : ofDatum d = .ok s) : s.toDatum = d := by
  unfold ofDatum at h
  split at h
  · cases h
    rfl
  · cases h
    rfl
  · cases h
  · cases h

theorem mapM_ofDatum_toDatum (path : List Segment) :
    (path.map toDatum).mapM ofDatum = .ok path := by
  induction path with
  | nil => rfl
  | cons s path ih =>
    rw [List.map_cons, List.mapM_cons, ofDatum_toDatum, ok_bind, ih, ok_bind]
    rfl

theorem map_toDatum_of_mapM {ds : List Datum} {path : List Segment}
    (h : ds.mapM ofDatum = .ok path) : path.map toDatum = ds := by
  have hsegments := forall₂_of_mapM h
  clear h
  induction hsegments with
  | nil => rfl
  | cons h _ ih => rw [List.map_cons, ih, toDatum_of_ofDatum h]

end Segment

namespace Patch

open Json (HasText)

/-- A patch whose value has a JSON form, with something that is asked of all its texts: of the keys on
its path and of those in its value. -/
structure IsJson (P : Text → Prop) (p : Patch) : Prop where
  path : ∀ k, Segment.key k ∈ p.path → P k
  value : p.value.IsJson P

/-! ## Records -/

/-- The record of a patch stands for the patch. -/
theorem ofDatum_toDatum {p : Patch} (h : p.path ≠ []) : ofDatum p.toDatum = .ok p := by
  obtain ⟨path, value⟩ := p
  obtain ⟨s, path, rfl⟩ := List.exists_cons_of_ne_nil h
  have hrecord : ofDatum (toDatum ⟨s :: path, value⟩) = do
      return ⟨← ((s :: path).map Segment.toDatum).mapM Segment.ofDatum, value⟩ := rfl
  rw [hrecord, Segment.mapM_ofDatum_toDatum]
  rfl

theorem IsJson.toDatum {P : Text → Prop} (hkey : P "key") (hvalue : P "value") {p : Patch}
    (h : p.IsJson P) : p.toDatum.IsJson P := by
  apply Datum.IsJson.object
  · have hkeys : [Text.ofString "key", Text.ofString "value"].Nodup := by decide
    exact hkeys
  · exact List.forall_mem_cons.mpr ⟨hkey, List.forall_mem_singleton.mpr hvalue⟩
  · refine List.forall_mem_cons.mpr ⟨.list ?_, List.forall_mem_singleton.mpr h.value⟩
    rw [List.forall_mem_map]
    intro s hs
    cases s with
    | key k =>
      refine .scalar (by simp [Scalar.kind]) fun t ht ↦ ?_
      cases ht
      exact h.path k hs
    | index n => exact Datum.isJson_scalar (by simp [Scalar.kind])

/-! ## Descriptions -/

theorem isJsonValue_toDatum {p : Patch} (h : p.value.IsJsonValue) : p.toDatum.IsJsonValue := by
  refine .map ?_ (List.forall_mem_cons.mpr ⟨.list ?_, List.forall_mem_singleton.mpr h⟩)
  · simp [Scalar.kind]
  · rw [List.forall_mem_map]
    intro s _
    cases s <;> exact .scalar (by simp [Scalar.kind])

/-- A patch with a JSON value is described unless one of its integers has too many digits. -/
theorem describe_writes {p : Patch} (h : p.value.IsJsonValue) :
    Json.WritesUnless p.toDatum.isWritable p.describe :=
  Json.print_writes Json.asciiLine (isJsonValue_toDatum h)

/-- A patch is described unless one of its integers has too many digits, and the description between
brackets is read as the patch alone. -/
theorem describe_outcome {p : Patch} (hpath : p.path ≠ []) (h : p.IsJson fun t ↦ t.isEncodable = true) :
    Outcome
      (fun t ↦ p.toDatum.isWritable = true ∧
        listOfText (.scalar '[' :: (t ++ [.scalar ']'])) = .ok [p])
      (fun e ↦ p.toDatum.isWritable = false ∧ e = .digitLimit .writing) p.describe := by
  have hlegible (t : Text) (ht : t.isEncodable = true) : Json.Legible Json.asciiLine.ascii t :=
    fun _ ↦ ht
  have hrecord : p.toDatum.IsJson fun t ↦ t.isEncodable = true := h.toDatum (by decide) (by decide)
  apply (Json.valueText_outcome hlegible hrecord 0).mono
  rintro t ⟨hwritable, hdenotes⟩
  refine ⟨hwritable, ?_⟩
  -- a record on one line is laid out at the top as it is inside a list
  have hread := (Json.denotes_list Json.asciiLine 0 (.cons hdenotes .nil)).read
  have htext : Json.enclose Json.asciiLine 0 '[' ']' [t] = .scalar '[' :: (t ++ [.scalar ']']) := by
    simp [Json.enclose, Json.asciiLine, Text.joinWith_singleton]
  rw [htext] at hread
  rw [listOfText, hread]
  dsimp only
  rw [listOfDatum, List.mapM_cons, ofDatum_toDatum hpath]
  rfl

/-! ## Patches from texts -/

/-- A patch that can be described: it has a path and a value with a JSON form, and none of its integers
has too many digits. -/
structure IsDescribable (p : Patch) : Prop where
  path_ne_nil : p.path ≠ []
  isJson : p.IsJson fun _ ↦ True
  isWritable : p.toDatum.isWritable = true

theorem isDescribable_of_ofDatum {record : Datum} (hrecord : HasText record) {p : Patch}
    (h : ofDatum record = .ok p) : p.IsDescribable := by
  unfold ofDatum at h
  split at h
  · next entries =>
    split at h
    · next d ds value hkey hvalue =>
      obtain ⟨path, hpath, h⟩ := bind_eq_ok.mp h
      cases h
      have hsegments := Segment.map_toDatum_of_mapM hpath
      have hlist := hrecord.get? hkey
      have hpart := hrecord.get? hvalue
      constructor
      · rintro rfl
        cases hsegments
      · exact ⟨fun _ _ ↦ trivial, hpart.isJson⟩
      · rw [toDatum, hsegments, Datum.inherited_isWritable.object]
        exact List.forall_mem_cons.mpr
          ⟨⟨rfl, hlist.isWritable⟩, List.forall_mem_singleton.mpr ⟨rfl, hpart.isWritable⟩⟩
    · cases h
    · cases h
  · cases h

theorem isDescribable_of_listOfDatum {d : Datum} (hd : HasText d) {ps : List Patch}
    (h : listOfDatum d = .ok ps) : ∀ p ∈ ps, p.IsDescribable := by
  unfold listOfDatum at h
  split at h
  · next records =>
    have hall : Outcome (fun ps ↦ ∀ p ∈ ps, IsDescribable p) (fun _ ↦ True)
        (records.mapM ofDatum) := by
      apply Outcome.mapM
      intro record hrecord
      cases hread : ofDatum record with
      | ok p => exact .ok (isDescribable_of_ofDatum (hd.of_mem record hrecord) hread)
      | error e => exact .error trivial
    exact hall.of_ok h
  · cases h

/-- A patch that is read from a text can be described. -/
theorem isDescribable_of_listOfText {source : Text} {ps : List Patch}
    (h : listOfText source = .ok ps) : ∀ p ∈ ps, p.IsDescribable := by
  unfold listOfText at h
  split at h
  · cases h
  · cases h
  · next d hread =>
    split at h
    · next hps =>
      cases h
      exact isDescribable_of_listOfDatum (Json.hasText_of_read hread) hps
    · cases h

/-- The description of a patch is the patch: whatever its path and its value, the description between
brackets is read as this patch alone, and is in ASCII. There is one unless an integer of the patch has too
many digits; patches that are read from a text do not have such integers. -/
theorem describe_read_back (p : Patch) :
    (p.path ≠ [] → p.IsJson (fun t ↦ t.isEncodable = true) →
      Outcome
        (fun t ↦ p.toDatum.isWritable = true ∧
          listOfText (.scalar '[' :: (t ++ [.scalar ']'])) = .ok [p])
        (fun e ↦ p.toDatum.isWritable = false ∧ e = .digitLimit .writing) p.describe) ∧
    (∀ t : Text, p.describe = .ok t → t.IsAscii) ∧
    ∀ (source : Text) (ps : List Patch), listOfText source = .ok ps → p ∈ ps → p.IsDescribable :=
  ⟨describe_outcome, fun _ ↦ Json.isAscii_of_print rfl, fun _ _ h ↦ isDescribable_of_listOfText h p⟩

/-- A patch with a numeric key, an index and an astral code point on its path, and with a quote, a
negative zero and a list in its value. -/
def mixed : Patch where
  path := [.key "0", .index 0, .key "😀"]
  value := .object [
    ("é\"", .list [.int 0, .float (.finite true ⟨0, by decide⟩)]), ("b", .null), ("a", .bool true)]

theorem describe_read_back_mixed :
    ∃ t, mixed.describe = .ok t ∧ t.IsAscii ∧
      listOfText (.scalar '[' :: (t ++ [.scalar ']'])) = .ok [mixed] ∧ mixed.IsDescribable := by
  obtain ⟨houtcome, hascii, hdescribable⟩ := describe_read_back mixed
  have hwritable : mixed.toDatum.isWritable = true := by
    have hpow (m : Nat) : 0 < Nat.pow 10 m := Nat.pow_pos (by decide)
    have hzero : (Scalar.int 0).isWritable = true := Json.isWritable_int_iff.mpr (hpow _)
    simp [mixed, toDatum, Segment.toDatum, Datum.object, Datum.isWritable, Datum.areWritable,
      Datum.entriesAreWritable, hzero]
    simp [Scalar.isWritable]
  have hjson : mixed.IsJson fun t ↦ t.isEncodable = true := by
    have hkeys : (Text.ofString "0").isEncodable = true ∧ (Text.ofString "😀").isEncodable = true := by
      decide
    constructor
    · simp [mixed, hkeys]
    · apply Datum.IsJson.object
      · decide
      · decide
      · simp only [List.forall_mem_cons, List.not_mem_nil, IsEmpty.forall_iff, implies_true, and_true]
        refine ⟨.list ?_, Datum.isJson_scalar (by decide), Datum.isJson_scalar (by decide)⟩
        simp only [List.forall_mem_cons, List.not_mem_nil, IsEmpty.forall_iff, implies_true, and_true]
        exact ⟨Datum.isJson_scalar (by decide), Datum.isJson_scalar (by decide)⟩
  have hmixed := houtcome (List.cons_ne_nil _ _) hjson
  cases ht : mixed.describe with
  | ok t =>
    have hread := (hmixed.of_ok ht).2
    exact ⟨t, rfl, hascii t ht, hread, hdescribable _ _ hread List.mem_cons_self⟩
  | error e =>
    rw [(hmixed.of_error ht).1] at hwritable
    cases hwritable

/-- A patch with an integer that has one digit more than are converted. -/
def overlong : Patch where
  path := [.key "functions", .key "llBar", .key "energy"]
  value := .scalar (.int DigitLimit.overlong)

theorem overlong_not_isWritable : ¬ overlong.toDatum.isWritable = true := by
  intro hwritable
  rw [toDatum, Datum.inherited_isWritable.object, List.forall_mem_cons] at hwritable
  exact Scalar.overlong_not_isWritable (hwritable.2 _ List.mem_cons_self).2

/-- Not every patch is what its description is read as: no text at all is read as a patch with an integer
that has too many digits. -/
theorem describe_refuses_integer :
    ¬ ∀ p : Patch, p.path ≠ [] → p.IsJson (fun t ↦ t.isEncodable = true) →
      ∃ t, p.describe = .ok t ∧ listOfText (.scalar '[' :: (t ++ [.scalar ']'])) = .ok [p] := by
  intro h
  have hjson : overlong.IsJson fun t ↦ t.isEncodable = true := by
    constructor
    · intro k hk
      simp only [overlong, List.mem_cons, Segment.key.injEq, List.not_mem_nil, or_false] at hk
      rcases hk with rfl | rfl | rfl <;> decide
    · exact Datum.isJson_scalar (by simp [Scalar.kind])
  obtain ⟨t, -, hread⟩ := h overlong (List.cons_ne_nil _ _) hjson
  exact overlong_not_isWritable
    (isDescribable_of_listOfText hread overlong List.mem_cons_self).isWritable

end Patch

end ScriptDefs
