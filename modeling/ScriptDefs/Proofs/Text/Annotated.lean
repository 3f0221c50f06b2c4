import Mathlib.Data.List.Forall2
import ScriptDefs.Proofs.Text.Unwrap

/-!
# Comments at the ends of lines

Two texts that differ in comments at the ends of lines only. A comment may stand in front of a line
break, so two such texts have the same lines, up to what a line of the first has after the end of the
one of the second.
-/

namespace ScriptDefs.Text

/-- A line is another one with nothing or with a comment after it. -/
def Commented (line bare : Text) : Prop :=
  line = bare ∨ ∃ t, .scalar '\n' ∉ t ∧ line = bare ++ ofString " -- " ++ t

/-- A text is another one with comments in front of some of its line breaks. -/
inductive Annotated : Text → Text → Prop where
  | nil : Annotated [] []
  | cons (c : CodePoint) {s s₀ : Text} (h : Annotated s s₀) : Annotated (c :: s) (c :: s₀)
  | comment {t s s₀ : Text} (ht : .scalar '\n' ∉ t) (h : Annotated s s₀) :
      Annotated (ofString " -- " ++ t ++ .scalar '\n' :: s) (.scalar '\n' :: s₀)

/-- Two texts differ in comments only once a line break follows them. -/
def EndAlike (s s₀ : Text) : Prop := Annotated (s ++ [.scalar '\n']) (s₀ ++ [.scalar '\n'])

variable {s s₀ t t₀ : Text}

/-- A code point that is replaced wherever it stands does not occur any more. -/
theorem notMem_replaceAll {c : CodePoint} {new : Text} (h : c ∉ new) (t : Text) :
    c ∉ replaceAll [c] new t := by
  induction t with
  | nil => exact List.not_mem_nil
  | cons d t ih =>
    by_cases hd : d = c
    · subst hd
      have hstart := replaceAll_append new (List.cons_ne_nil d []) t
      rw [List.singleton_append] at hstart
      rw [hstart, List.mem_append, not_or]
      exact ⟨h, ih⟩
    · rw [replaceAll_cons new (by simp [Ne.symm hd]), List.mem_cons, not_or]
      exact ⟨Ne.symm hd, ih⟩

namespace Annotated

theorem refl (s : Text) : Annotated s s := by
  induction s with
  | nil => exact .nil
  | cons c s ih => exact .cons c ih

theorem append (hs : Annotated s s₀) (ht : Annotated t t₀) : Annotated (s ++ t) (s₀ ++ t₀) := by
  induction hs with
  | nil => exact ht
  | cons c _ ih => exact .cons c ih
  | comment hc _ ih =>
    rw [List.append_assoc, List.cons_append]
    exact .comment hc ih

/-- What comes before is the same. -/
theorem append_left (u : Text) (h : Annotated s s₀) : Annotated (u ++ s) (u ++ s₀) :=
  (refl u).append h

theorem concat {parts parts₀ : List Text} (h : List.Forall₂ Annotated parts parts₀) :
    Annotated (concat parts) (Text.concat parts₀) := by
  induction h with
  | nil => exact .nil
  | cons h _ ih => exact h.append ih

theorem endAlike (h : Annotated s s₀) : EndAlike s s₀ := h.append (refl _)

end Annotated

namespace EndAlike

theorem append_left (u : Text) (h : EndAlike s s₀) : EndAlike (u ++ s) (u ++ s₀) := by
  unfold EndAlike
  rw [List.append_assoc, List.append_assoc]
  exact Annotated.append_left u h

/-- The line break, and what is the same after it. -/
theorem append_cons (h : EndAlike s s₀) (u : Text) :
    Annotated (s ++ .scalar '\n' :: u) (s₀ ++ .scalar '\n' :: u) := by
  rw [List.append_cons s, List.append_cons s₀]
  exact Annotated.append h (.refl u)

/-- A comment ends like nothing. -/
theorem comment (ht : .scalar '\n' ∉ t) : EndAlike (ofString " -- " ++ t) [] :=
  Annotated.comment ht .nil

/-- Lines of which each ends like another one. -/
theorem joinWith {lines lines₀ : List Text} (h : List.Forall₂ EndAlike lines lines₀) :
    EndAlike (joinWith (ofString "\n") lines) (joinWith (ofString "\n") lines₀) := by
  induction h with
  | nil => exact .endAlike .nil
  | @cons line line₀ lines lines₀ hline hlines ih =>
    cases hlines with
    | nil =>
      rw [joinWith_singleton, joinWith_singleton]
      exact hline
    | cons =>
      have hboth := Annotated.append hline ih
      rw [joinWith_cons_cons, joinWith_cons_cons]
      simpa [EndAlike, ofString] using hboth

end EndAlike

/-! ## Lines -/

theorem exists_splitOn (separator : CodePoint) (t : Text) :
    ∃ part rest, splitOn separator t = part :: rest := by
  fun_cases splitOn separator t with
  | case1 => exact ⟨[], [], rfl⟩
  | case2 t => exact ⟨[], splitOn separator t, rfl⟩
  | case3 c t hc part rest hrest => exact ⟨c :: part, rest, rfl⟩
  | case4 c t hc hnone => exact ⟨[c], [], rfl⟩

/-- A code point comes to the part that it stands in front of. -/
theorem splitOn_cons_of_ne {separator c : CodePoint} (h : c ≠ separator) {part : Text}
    {rest : List Text} (ht : splitOn separator t = part :: rest) :
    splitOn separator (c :: t) = (c :: part) :: rest := by
  rw [splitOn, if_neg h, ht]

/-- The part up to the first separator. -/
theorem splitOn_append_cons {separator : CodePoint} (h : separator ∉ s) (t : Text) :
    splitOn separator (s ++ separator :: t) = s :: splitOn separator t := by
  induction s with
  | nil => rw [List.nil_append, splitOn, if_pos rfl]
  | cons c s ih =>
    obtain ⟨hc, hs⟩ := not_or.mp fun hor ↦ h (List.mem_cons.mpr hor)
    exact splitOn_cons_of_ne (Ne.symm hc) (ih hs)

theorem Commented.cons (c : CodePoint) (h : Commented s s₀) : Commented (c :: s) (c :: s₀) := by
  rcases h with rfl | ⟨t, ht, rfl⟩
  · exact .inl rfl
  · exact .inr ⟨t, ht, rfl⟩

/-- A text with comments has the lines of the text without them, each with a comment or nothing
after it. -/
theorem Annotated.lines (h : Annotated s s₀) :
    List.Forall₂ Commented (splitOn (.scalar '\n') s) (splitOn (.scalar '\n') s₀) := by
  induction h with
  | nil => exact .cons (.inl rfl) .nil
  | @cons c s s₀ h ih =>
    by_cases hc : c = .scalar '\n'
    · subst hc
      rw [splitOn, splitOn, if_pos rfl, if_pos rfl]
      exact .cons (.inl rfl) ih
    · obtain ⟨line, lines, hlines⟩ := exists_splitOn (.scalar '\n') s
      obtain ⟨line₀, lines₀, hlines₀⟩ := exists_splitOn (.scalar '\n') s₀
      rw [hlines, hlines₀, List.forall₂_cons] at ih
      rw [splitOn_cons_of_ne hc hlines, splitOn_cons_of_ne hc hlines₀]
      exact .cons (ih.1.cons c) ih.2
  | @comment t s s₀ ht h ih =>
    have hcomment : .scalar '\n' ∉ ofString " -- " ++ t := by simpa [ofString] using ht
    rw [splitOn_append_cons hcomment, splitOn, if_pos rfl]
    exact .cons (.inr ⟨t, ht, rfl⟩) ih

end ScriptDefs.Text
