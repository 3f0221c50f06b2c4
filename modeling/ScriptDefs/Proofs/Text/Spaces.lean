import Mathlib.Data.Nat.Log
import ScriptDefs.Proofs.Data.Runs
import ScriptDefs.Text.Clean

/-!
# Runs of spaces

A text with every run of spaces shortened to one space, in one pass. Halving the runs until no two
spaces are adjacent ends with the same text: every pass keeps what the single one leaves. A pass
halves the length of every run, rounding up, so the longest one tells how many passes there are.
-/

namespace ScriptDefs.Text

/-! ## Replacement -/

section Replacement

variable {old : Text} (new : Text)

theorem replaceFrom_length (part t : Text) :
    replaceFrom old new part.length (part ++ t) = replaceFrom old new 0 t := by
  induction part with
  | nil => rfl
  | cons c part ih => exact ih

/-- What is replaced, at the start of a text. -/
theorem replaceAll_append (h : old ≠ []) (t : Text) :
    replaceAll old new (old ++ t) = new ++ replaceAll old new t := by
  obtain ⟨c, rest, rfl⟩ := List.exists_cons_of_ne_nil h
  have hstart : (c :: rest).isPrefixOf (c :: (rest ++ t)) = true :=
    List.isPrefixOf_iff_prefix.mpr (List.prefix_append (c :: rest) t)
  rw [replaceAll, List.cons_append, replaceFrom, if_pos hstart, List.length_cons,
    Nat.add_sub_cancel, replaceFrom_length]
  rfl

/-- A code point where nothing to be replaced starts. -/
theorem replaceAll_cons {c : CodePoint} {t : Text} (h : ¬ old <+: c :: t) :
    replaceAll old new (c :: t) = c :: replaceAll old new t := by
  rw [replaceAll, replaceFrom, if_neg fun hp ↦ h (List.isPrefixOf_iff_prefix.mp hp)]
  rfl

end Replacement

/-! ## One pass -/

/-- Every run of spaces is shortened to one space: a space goes if another one follows. -/
def squeeze : Text → Text
  | [] => []
  | c :: t =>
    if c = .scalar ' ' ∧ t.head? = some (.scalar ' ') then squeeze t else c :: squeeze t

theorem squeeze_space_space (t : Text) :
    squeeze (.scalar ' ' :: .scalar ' ' :: t) = squeeze (.scalar ' ' :: t) := by
  rw [squeeze, if_pos ⟨rfl, rfl⟩]

theorem squeeze_cons_of_ne {c : CodePoint} (h : c ≠ .scalar ' ') (t : Text) :
    squeeze (c :: t) = c :: squeeze t := by
  rw [squeeze, if_neg fun hc ↦ h hc.1]

theorem head?_halveSpaces (t : Text) : (halveSpaces t).head? = t.head? := by
  fun_cases halveSpaces t <;> simp

/-- A pass does not change what is left in the end. -/
theorem squeeze_halveSpaces (t : Text) : squeeze (halveSpaces t) = squeeze t := by
  fun_induction halveSpaces t with
  | case1 t ih => rw [squeeze_space_space, squeeze, squeeze, head?_halveSpaces, ih]
  | case2 c t hne ih => rw [squeeze, squeeze, head?_halveSpaces, ih]
  | case3 => rfl

/-- Where no two spaces are adjacent there is nothing to shorten. -/
theorem squeeze_of_not_hasDoubleSpace {t : Text} (h : hasDoubleSpace t = false) :
    squeeze t = t := by
  fun_induction hasDoubleSpace t with
  | case1 t => cases h
  | case2 c t hne ih =>
    rw [squeeze, ih h, if_neg]
    rintro ⟨rfl, hhead⟩
    obtain ⟨rest, rfl⟩ := List.head?_eq_some_iff.mp hhead
    exact hne rest rfl rfl
  | case3 => rfl

/-- Repeated passes end with every run of spaces shortened to one. -/
theorem collapseSpaces_eq_squeeze (t : Text) : collapseSpaces t = squeeze t := by
  fun_induction collapseSpaces t with
  | case1 t h ih => rw [ih, squeeze_halveSpaces]
  | case2 t h => rw [squeeze_of_not_hasDoubleSpace (by simpa using h)]

theorem no_doubleSpace_at_start {c : CodePoint} {t : Text}
    (h : ∀ rest, c = .scalar ' ' → t = .scalar ' ' :: rest → False) :
    ¬ ofString "  " <+: c :: t := by
  rintro ⟨rest, hrest⟩
  obtain ⟨rfl, rfl⟩ := List.cons.inj hrest
  exact h rest rfl rfl

/-- A pass replaces two spaces by one wherever they are found. -/
theorem halveSpaces_eq_replaceAll (t : Text) : halveSpaces t = replaceAll "  " " " t := by
  fun_induction halveSpaces t with
  | case1 t ih =>
    rw [ih]
    exact (replaceAll_append (ofString " ") (by decide : ofString "  " ≠ []) t).symm
  | case2 c t hne ih =>
    rw [replaceAll_cons _ (no_doubleSpace_at_start hne), ih]
  | case3 => rfl

theorem hasDoubleSpace_iff (t : Text) : hasDoubleSpace t = true ↔ ofString "  " <:+: t := by
  fun_induction hasDoubleSpace t with
  | case1 t => exact iff_of_true rfl (List.prefix_append (ofString "  ") t).isInfix
  | case2 c t hne ih =>
    rw [ih, List.infix_cons_iff, or_iff_right (no_doubleSpace_at_start hne)]
  | case3 => simp [ofString]

/-! ## Runs -/

/-- A code point is a space. -/
def isSpace (c : CodePoint) : Bool := c = .scalar ' '

/-- The text in which every run of spaces has another length, which depends on the one it has. -/
def resize (length : Nat → Nat) (t : Text) : Text :=
  (runs isSpace t).flatMap fun run ↦
    if run.all isSpace then List.replicate (length run.length) (.scalar ' ') else run

/-- The length of the longest run of spaces. -/
def longestRun (t : Text) : Nat :=
  (((runs isSpace t).filter (·.all isSpace)).map List.length).foldr max 0

section Runs

variable {m : Text} (hm : ∀ c ∈ m.head?, isSpace c = false)
include hm

theorem runs_spaces (n : Nat) :
    runs isSpace (List.replicate (n + 1) (.scalar ' ') ++ m) =
      List.replicate (n + 1) (.scalar ' ') :: runs isSpace m :=
  runs_append (by simp) (fun c hc ↦ by simp [isSpace, List.eq_of_mem_replicate hc]) hm

theorem resize_spaces (f : Nat → Nat) (n : Nat) :
    resize f (List.replicate (n + 1) (.scalar ' ') ++ m) =
      List.replicate (f (n + 1)) (.scalar ' ') ++ resize f m := by
  rw [resize, runs_spaces hm, List.flatMap_cons]
  simp [resize, isSpace]

theorem longestRun_spaces (n : Nat) :
    longestRun (List.replicate (n + 1) (.scalar ' ') ++ m) = max (n + 1) (longestRun m) := by
  simp [longestRun, runs_spaces hm, isSpace]

/-- The last space of a run stays. -/
theorem squeeze_spaces (n : Nat) :
    squeeze (List.replicate (n + 1) (.scalar ' ') ++ m) = .scalar ' ' :: squeeze m := by
  induction n with
  | zero =>
    have hhead : m.head? ≠ some (.scalar ' ') := fun h ↦ by simpa [isSpace] using hm _ h
    exact if_neg fun h ↦ hhead h.2
  | succ n ih =>
    rw [← ih]
    exact squeeze_space_space (List.replicate n (.scalar ' ') ++ m)

/-- A pass halves the length of a run, rounding up. -/
theorem halveSpaces_spaces (n : Nat) :
    halveSpaces (List.replicate n (.scalar ' ') ++ m) =
      List.replicate ((n + 1) / 2) (.scalar ' ') ++ halveSpaces m := by
  induction n using Nat.twoStepInduction with
  | zero => rfl
  | one =>
    cases m with
    | nil => rfl
    | cons c m =>
      have hc : c ≠ .scalar ' ' := by simpa [isSpace] using hm c rfl
      rw [List.replicate_one, List.singleton_append, halveSpaces]
      · rfl
      · rintro rest - h
        exact hc (List.cons.inj h).1
  | more n ih _ =>
    have hlength : (n + 2 + 1) / 2 = (n + 1) / 2 + 1 := by omega
    have hpass : halveSpaces (List.replicate (n + 2) (.scalar ' ') ++ m) =
        .scalar ' ' :: halveSpaces (List.replicate n (.scalar ' ') ++ m) := rfl
    rw [hpass, ih, hlength]
    rfl

theorem hasDoubleSpace_spaces (n : Nat) :
    hasDoubleSpace (List.replicate (n + 1) (.scalar ' ') ++ m) = true ↔
      0 < n ∨ hasDoubleSpace m = true := by
  cases n with
  | zero =>
    have hone : hasDoubleSpace (.scalar ' ' :: m) = hasDoubleSpace m := by
      rw [hasDoubleSpace]
      rintro rest - rfl
      simpa [isSpace] using hm _ rfl
    simp [hone]
  | succ n => exact iff_of_true rfl (.inl (Nat.succ_pos n))

end Runs

section Other

variable {c : CodePoint} (hc : isSpace c = false) (t : Text)
include hc

theorem resize_cons (f : Nat → Nat) : resize f (c :: t) = c :: resize f t := by
  simp [resize, runs_cons hc, hc]

theorem longestRun_cons : longestRun (c :: t) = longestRun t := by
  simp [longestRun, runs_cons hc, hc]

theorem halveSpaces_cons : halveSpaces (c :: t) = c :: halveSpaces t := by
  rw [halveSpaces]
  rintro rest rfl -
  simp [isSpace] at hc

theorem hasDoubleSpace_cons : hasDoubleSpace (c :: t) = hasDoubleSpace t := by
  rw [hasDoubleSpace]
  rintro rest rfl -
  simp [isSpace] at hc

end Other

/-- A text is empty, or it begins with something other than a space, or with a whole run of spaces. -/
theorem spaces_induction {motive : Text → Prop} (nil : motive [])
    (cons : ∀ c t, isSpace c = false → motive t → motive (c :: t))
    (spaces : ∀ n m, (∀ c ∈ m.head?, isSpace c = false) → motive m →
      motive (List.replicate (n + 1) (.scalar ' ') ++ m)) (t : Text) : motive t := by
  induction t using runs_induction (p := isSpace) with
  | nil => exact nil
  | cons c t hc ih => exact cons c t hc ih
  | run l m hne hl hm ih =>
    obtain ⟨n, hn⟩ := Nat.exists_eq_succ_of_ne_zero (List.length_eq_zero_iff.not.mpr hne)
    have hreplicate : l = List.replicate (n + 1) (.scalar ' ') :=
      List.eq_replicate_iff.mpr ⟨hn, fun c hc ↦ by simpa [isSpace] using hl c hc⟩
    rw [hreplicate]
    exact spaces n m hm ih

/-- The single pass leaves one space of every run. -/
theorem squeeze_eq_resize (t : Text) : squeeze t = resize (fun _ ↦ 1) t := by
  induction t using spaces_induction with
  | nil => rfl
  | cons c t hc ih =>
    have hne : c ≠ .scalar ' ' := by simpa [isSpace] using hc
    rw [squeeze_cons_of_ne hne, resize_cons hc, ih]
  | spaces n m hm ih =>
    rw [squeeze_spaces hm, resize_spaces hm, ih]
    rfl

/-- Two spaces are adjacent where a run is longer than one. -/
theorem hasDoubleSpace_iff_longestRun (t : Text) :
    hasDoubleSpace t = true ↔ 1 < longestRun t := by
  induction t using spaces_induction with
  | nil => simp [hasDoubleSpace, longestRun]
  | cons c t hc ih => rw [hasDoubleSpace_cons hc, longestRun_cons hc, ih]
  | spaces n m hm ih =>
    rw [hasDoubleSpace_spaces hm, longestRun_spaces hm, ih]
    omega

/-- A pass halves the length of the longest run, rounding up. -/
theorem longestRun_halveSpaces (t : Text) :
    longestRun (halveSpaces t) = (longestRun t + 1) / 2 := by
  induction t using spaces_induction with
  | nil => rfl
  | cons c t hc ih => rw [halveSpaces_cons hc, longestRun_cons hc, longestRun_cons hc, ih]
  | spaces n m hm ih =>
    have hlength : (n + 1 + 1) / 2 = n / 2 + 1 := by omega
    rw [halveSpaces_spaces hm, hlength, longestRun_spaces (by rwa [head?_halveSpaces]),
      longestRun_spaces hm, ih]
    omega

/-! ## All passes -/

/-- After fewer passes than the longest run needs, two spaces are still adjacent, and only then. -/
theorem hasDoubleSpace_iterate (k : Nat) (t : Text) :
    hasDoubleSpace (halveSpaces^[k] t) = true ↔ k < Nat.clog 2 (longestRun t) := by
  rw [Nat.lt_clog_iff_pow_lt Nat.one_lt_two]
  induction k generalizing t with
  | zero => exact hasDoubleSpace_iff_longestRun t
  | succ k ih =>
    rw [Function.iterate_succ_apply, ih, longestRun_halveSpaces, Nat.pow_succ]
    omega

/-- The passes that are made. -/
theorem collapseSpaces_eq_iterate (t : Text) :
    collapseSpaces t = halveSpaces^[Nat.clog 2 (longestRun t)] t := by
  fun_induction collapseSpaces t with
  | case1 t h ih =>
    have hlong : 1 < longestRun t := (hasDoubleSpace_iff_longestRun t).mp h
    have hone : Nat.clog 2 (longestRun t) = Nat.clog 2 (longestRun (halveSpaces t)) + 1 := by
      rw [longestRun_halveSpaces]
      exact Nat.clog_of_one_lt Nat.one_lt_two hlong
    rw [ih, hone, Function.iterate_succ_apply]
  | case2 t h =>
    have hshort : longestRun t ≤ 1 := not_lt.mp ((hasDoubleSpace_iff_longestRun t).not.mp h)
    rw [Nat.clog_of_right_le_one hshort, Function.iterate_zero_apply]

/-- Two spaces are replaced by one from the left, again and again, until no two are adjacent. This ends
after as many passes as it takes to halve the longest run of spaces down to one, rounding up, and it
leaves what the single pass leaves: one space of every run of spaces, and everything else. -/
theorem collapseSpaces_ends (t : Text) :
    let pass := replaceAll "  " " "
    let passes := Nat.clog 2 (longestRun t)
    (∀ k, ofString "  " <:+: pass^[k] t ↔ k < passes) ∧
      collapseSpaces t = pass^[passes] t ∧
      collapseSpaces t = squeeze t ∧
      squeeze t = resize (fun _ ↦ 1) t := by
  have hpass : replaceAll "  " " " = halveSpaces := funext fun t ↦ (halveSpaces_eq_replaceAll t).symm
  rw [hpass]
  refine ⟨fun k ↦ ?_, collapseSpaces_eq_iterate t, collapseSpaces_eq_squeeze t, squeeze_eq_resize t⟩
  rw [← hasDoubleSpace_iff, hasDoubleSpace_iterate]

example : collapseSpaces "a      b c   d" = "a b c d" := by cbv

end ScriptDefs.Text
