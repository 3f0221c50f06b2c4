import ScriptDefs.Files
import ScriptDefs.Proofs.Data.Assoc
import ScriptDefs.Proofs.Data.Fields

/-!
# Reading and writing files

A file that was written is read back, and what stands at any other place is as before. Writing
neither makes a directory nor ends one, so every path leads to the same place as before.
-/

namespace ScriptDefs.Files

variable {files : Files} {place : Path}

theorem entryOf_put_of_ne {q : Path} (h : q ≠ place) (e : FileEntry) :
    entry? (Assoc.put place e files) q = files.entry? q := by
  unfold entry?
  rw [Assoc.lookup_put_of_ne (Ne.symm h)]

theorem entryOf_put_self (h : files.entry? place ≠ some .directory) (e : FileEntry) :
    entry? (Assoc.put place e files) place = some e := by
  have hname : ¬ place.names.all (· = backName) = true := by
    intro hback
    unfold entry? at h
    exact h (if_pos hback)
  unfold entry?
  rw [if_neg hname, Assoc.lookup_put_self]

/-- Names can be looked up in the same places as before. -/
theorem enter_put (h : files.entry? place ≠ some .directory) (content : List UInt8) (q : Path) :
    enter (Assoc.put place (.file content) files) q = .ok () ↔ files.enter q = .ok () := by
  have enter_eq_ok (files : Files) :
      files.enter q = .ok () ↔ files.entry? q = some .directory := by
    rw [enter]
    cases files.entry? q with
    | none => simp
    | some e => cases e <;> simp
  rw [enter_eq_ok, enter_eq_ok]
  by_cases hq : q = place
  · subst hq
    simp [entryOf_put_self h, h]
  · rw [entryOf_put_of_ne hq]

/-- Names lead to the same place as before. -/
theorem follow_put (h : files.entry? place ≠ some .directory) (content : List UInt8)
    {p q : Path} {names : List Text} :
    follow (Assoc.put place (.file content) files) p names = .ok q ↔
      files.follow p names = .ok q := by
  induction names generalizing p with
  | nil => rfl
  | cons n names ih =>
    rw [follow, follow, bind_eq_ok, bind_eq_ok]
    refine exists_congr fun _ ↦ and_congr (enter_put h content p) ?_
    split
    · rfl
    · exact ih

theorem locate_put (h : files.entry? place ≠ some .directory) (content : List UInt8) {p q : Path} :
    locate (Assoc.put place (.file content) files) p = .ok q ↔ files.locate p = .ok q := by
  rw [locate, locate]
  split
  · rfl
  split
  · rfl
  split
  · rfl
  exact follow_put h content

/-- A content was written to a path: it is read back, and at any other place stands what stood there
before. -/
structure Wrote (files : Files) (p : Path) (content : List UInt8) (files' : Files) : Prop where
  read : files'.read p = .ok content
  elsewhere : ∃ place, files.locate p = .ok place ∧
    ∀ q, q ≠ place → files'.lookup q = files.lookup q

theorem wrote_of_write {p : Path} {content : List UInt8} {files' : Files}
    (h : files.write p content = .ok files') : Wrote files p content files' := by
  rw [write] at h
  cases hplace : files.locate p with
  | error fault => simp [hplace] at h
  | ok place =>
    have hentry : files.entry? place ≠ some .directory := by
      intro hdirectory
      simp [hplace, hdirectory] at h
    obtain rfl : Assoc.put place (.file content) files = files' := by
      simpa [hplace, hentry] using h
    refine ⟨?_, place, hplace, fun q hq ↦ Assoc.lookup_put_of_ne (Ne.symm hq) _ _⟩
    rw [read, (locate_put hentry content).mpr hplace]
    simp only [entryOf_put_self hentry]

end ScriptDefs.Files
