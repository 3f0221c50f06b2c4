import ScriptDefs.CommandLine.Run
import ScriptDefs.Proofs.Files
import ScriptDefs.Proofs.Keywords.Reread
import ScriptDefs.Proofs.Remap.Modes
import ScriptDefs.Proofs.Types.Printing

/-!
# What a run leaves behind

A run that succeeds has handed over its whole output in one place, and one that fails has handed
over nothing. Either way nothing else has changed. There is one exception: a file is emptied before
an output that cannot be encoded is found to be one.
-/

namespace ScriptDefs

namespace CommandLine

variable {files : Files} {a : Arguments}

/-- A catalogue and a document are those of a run: the catalogue is read from the input and
overridden, and the document is what it is remapped to, overridden. -/
def IsBuild (files : Files) (a : Arguments) (c : Catalogue) (d : Document) : Prop :=
  ∃ options, buildOptions files a = .ok options ∧
    (∃ format l, Keywords.Format.ofSuffix? a.input.suffix = some format ∧
      (Keywords.readCatalogue options.effects files a.input format).result = .ok l ∧
      l.catalogue.overridden options.cataloguePatches = .ok c) ∧
    ∃ d₀, c.toDocument options.mode Builtins.standard = .ok d₀ ∧
      d₀.overridden options.documentPatches = .ok d

/-- A text is the output of a kind for the catalogue and the document of a run. -/
def IsOutput (files : Files) (a : Arguments) (k : OutputKind) (t : Text) : Prop :=
  ∃ c d, IsBuild files a c d ∧ k.render c d = .ok t

/-! ## Rendering -/

theorem rendering_result (files : Files) (a : Arguments) :
    (rendering files a).result = (do
      let options ← buildOptions files a
      let b ← (Build.run options Builtins.standard files a.input).result.mapError .build
      (b.render a.input a.kind).result.mapError .render) := by
  simp only [rendering, Traced.result_bind, Traced.ofExcept, Traced.note, Traced.mapError, ok_bind]

theorem isBuild_of_run {options : BuildOptions} (hoptions : buildOptions files a = .ok options)
    {b : Build} (h : (Build.run options Builtins.standard files a.input).result = .ok b) :
    IsBuild files a b.catalogue b.document := by
  simp only [Build.run, Traced.result_bind, Traced.mapError, Traced.note, bind_eq_ok,
    mapError_eq_ok] at h
  obtain ⟨l, hload, d, hd, _, _, hb⟩ := h
  cases hb
  obtain ⟨format, l₀, c, hformat, hread, hc, rfl⟩ := Keywords.load_eq_ok.mp hload
  rw [Build.remapped_result, bind_eq_ok] at hd
  obtain ⟨d₀, hremap, hoverride⟩ := hd
  exact ⟨options, hoptions, ⟨format, l₀, hformat, hread, hc⟩, d₀, mapError_eq_ok.mp hremap,
    mapError_eq_ok.mp hoverride⟩

/-- What is rendered is the output of the kind that is asked for, and nothing if there is none. -/
theorem of_rendering {x : Option Text} (h : (rendering files a).result = .ok x) :
    (OutputKind.ofName? a.kind = none ∧ x = none) ∨
      ∃ k t, OutputKind.ofName? a.kind = some k ∧ x = some t ∧ IsOutput files a k t := by
  rw [rendering_result, bind_eq_ok] at h
  obtain ⟨options, hoptions, h⟩ := h
  obtain ⟨b, hbuild, h⟩ := bind_eq_ok.mp h
  have hb := isBuild_of_run hoptions (mapError_eq_ok.mp hbuild)
  have hrender := mapError_eq_ok.mp h
  simp only [Build.render, Traced.result_bind, Traced.note, ok_bind] at hrender
  cases hkind : OutputKind.ofName? a.kind with
  | none =>
    simp only [hkind, Traced.result_bind, ok_bind] at hrender
    exact .inl ⟨rfl, (Except.ok.inj hrender).symm⟩
  | some k =>
    simp only [hkind, Traced.result_bind, Traced.ofExcept, bind_eq_ok] at hrender
    obtain ⟨t, ht, hsome⟩ := hrender
    exact .inr ⟨k, t, rfl, (Except.ok.inj hsome).symm, b.catalogue, b.document, hb, ht⟩

/-- A computation can only fail with the errors that its own are turned into. -/
theorem ends_mapError {ε α : Type} (x : Except ε α) {f : ε → RunError} {E : RunError → Prop}
    (h : ∀ e, E (f e)) : ScriptDefs.Outcome (fun _ ↦ True) E (x.mapError f) :=
  (ScriptDefs.Outcome.any x).mapError fun e _ ↦ h e

/-- Whether an output can be encoded does not matter before it has been rendered. -/
theorem rendering_ne_unencodable : (rendering files a).result ≠ .error .unencodable := by
  have hoverrides (p : Option Path) :
      ScriptDefs.Outcome (fun _ ↦ True) (· ≠ .unencodable) (overrides files p) := by
    cases p with
    | none => exact .ok trivial
    | some p => exact ends_mapError _ (by simp)
  have hends :
      ScriptDefs.Outcome (fun _ ↦ True) (· ≠ .unencodable) (rendering files a).result := by
    rw [rendering_result]
    refine .bind (Q := fun _ ↦ True) ?_ fun options _ ↦ ?_
    · exact (hoverrides _).bind fun _ _ ↦ (hoverrides _).bind fun _ _ ↦ .ok trivial
    exact (ends_mapError _ (by simp)).bind fun _ _ ↦ ends_mapError _ (by simp)
  exact fun h ↦ hends.of_error h rfl

/-! ## Delivery -/

/-- A run has written nothing anywhere. -/
def Untouched (files : Files) (o : Outcome) : Prop := o.output = [] ∧ o.files = files

/-- A run has handed over a text in full and in one place, and changed nothing else. -/
def Delivered (files : Files) (out : Option Path) (t : Text) (o : Outcome) : Prop :=
  ∃ bytes, t.toUtf8? = some bytes ∧
    match out with
    | none => o.output = t ∧ o.files = files
    | some p => o.output = [] ∧ Files.Wrote files p bytes o.files

/-- What a run can leave behind. If it succeeds, it has written nothing if there is no such kind,
and has otherwise handed over the output of its kind. If it fails, it has written nothing, unless
its output is for a file and cannot be encoded: then the file has been emptied. -/
structure Ends (files : Files) (a : Arguments) (o : Outcome) : Prop where
  unknown : o.result = .ok () → OutputKind.ofName? a.kind = none → Untouched files o
  delivered : ∀ k, o.result = .ok () → OutputKind.ofName? a.kind = some k →
    ∃ t, IsOutput files a k t ∧ Delivered files a.out t o
  failed : ∀ e, o.result = .error e → (e = .unencodable → a.out = none) → Untouched files o
  unencodable : ∀ p, o.result = .error .unencodable → a.out = some p →
    (∃ k t, OutputKind.ofName? a.kind = some k ∧ IsOutput files a k t ∧ t.isEncodable = false) ∧
      o.output = [] ∧ Files.Wrote files p [] o.files

/-- An output is handed over, or it is refused without a trace, or its file has been emptied. -/
theorem deliver_ends (files : Files) (a : Arguments) (t : Text) :
    let o := deliver files a t
    (o.result = .ok () → Delivered files a.out t o) ∧
    (∀ e, o.result = .error e → (e = .unencodable → a.out = none) → Untouched files o) ∧
    (∀ p, o.result = .error .unencodable → a.out = some p →
      t.isEncodable = false ∧ o.output = [] ∧ Files.Wrote files p [] o.files) := by
  cases hout : a.out with
  | none =>
    by_cases ht : t.isEncodable = true
    · obtain ⟨bytes, hbytes⟩ := Text.exists_toUtf8? ht
      simp [deliver, hout, ht, Delivered, hbytes]
    · simp [deliver, hout, ht, Untouched]
  | some p =>
    by_cases ht : t.isEncodable = true
    · obtain ⟨bytes, hbytes⟩ := Text.exists_toUtf8? ht
      cases hwrite : files.write p bytes with
      | error e => simp [deliver, hout, writeOutput, hbytes, hwrite, Untouched]
      | ok written =>
        simp [deliver, hout, writeOutput, hbytes, hwrite, ht, Delivered,
          Files.wrote_of_write hwrite]
    · have hbytes := Text.toUtf8?_eq_none (by simpa using ht)
      cases hwrite : files.write p [] with
      | error e => simp [deliver, hout, writeOutput, hbytes, hwrite, Untouched]
      | ok written =>
        simp [deliver, hout, writeOutput, hbytes, hwrite, ht, Files.wrote_of_write hwrite]

/-- Runs are all or nothing, but for files that are emptied for outputs that cannot be encoded. -/
theorem run_ends (files : Files) (a : Arguments) : Ends files a (run files a) := by
  cases hrendering : (rendering files a).result with
  | error e =>
    have hne : e ≠ .unencodable := fun h ↦ rendering_ne_unencodable (h ▸ hrendering)
    simp only [run, hrendering, conclude]
    exact {
      unknown := nofun
      delivered := nofun
      failed := fun _ _ _ ↦ ⟨rfl, rfl⟩
      unencodable := fun _ h ↦ absurd (Except.error.inj h) hne }
  | ok x =>
    rcases of_rendering hrendering with ⟨hkind, rfl⟩ | ⟨k, t, hkind, rfl, houtput⟩
    · simp only [run, hrendering, conclude]
      exact {
        unknown := fun _ _ ↦ ⟨rfl, rfl⟩
        delivered := fun k _ hk ↦ by simp [hkind] at hk
        failed := nofun
        unencodable := nofun }
    · obtain ⟨hok, herror, hunencodable⟩ := deliver_ends files a t
      simp only [run, hrendering, conclude]
      exact {
        unknown := fun _ hk ↦ by simp [hkind] at hk
        delivered := fun k' h hk ↦ by
          obtain rfl : k = k' := Option.some.inj (hkind.symm.trans hk)
          exact ⟨t, houtput, hok h⟩
        failed := herror
        unencodable := fun p h hp ↦ by
          obtain ⟨ht, hemptied⟩ := hunencodable p h hp
          exact ⟨⟨k, t, hkind, houtput, ht⟩, hemptied⟩ }

/-- The files of a run on a description that cannot be encoded. -/
def unencodableFiles : Files :=
  let keywords : Text := "events:\n  e:\n    tooltip: \"\\uD800\"\n"
  [(Path.ofText "keywords.yaml", .file (keywords.toUtf8?.getD [])),
    (Path.ofText "snippets.json", .file [0x7B, 0x7D])]

/-- A run that fails can leave a file empty that was not. -/
theorem run_empties_file :
    ¬ ∀ files a e, (run files a).result = .error e → (run files a).files = files := by
  intro h
  let a : Arguments :=
    { input := Path.ofText "keywords.yaml"
      kind := "vsc-snippets"
      out := some (Path.ofText "snippets.json") }
  have hfails : (run unencodableFiles a).result.toOption = none := by decide +kernel
  have hchanged : (run unencodableFiles a).files ≠ unencodableFiles := by decide +kernel
  cases hresult : (run unencodableFiles a).result with
  | error e => exact hchanged (h unencodableFiles a e hresult)
  | ok x =>
    rw [hresult] at hfails
    cases hfails

end CommandLine

end ScriptDefs
