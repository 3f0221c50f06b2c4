import Mathlib.Data.List.Infix
import ScriptDefs.Proofs.Text.Spaces

/-!
# What cleaning leaves of a text

The meaning of a published text, read in one pass: an escaped line break is a line break, a raw one
is nothing, and a run of spaces is a single one. Cleaning gets there through a mark made of percent
signs, which stands for a line break for a while. So percent signs of the text itself can be taken
for a part of such a mark. Here is what becomes of them, and that nothing else changes.
-/

namespace ScriptDefs.Text

/-- Escaped line breaks are read, and raw ones are dropped. -/
def readBreaks : Text → Text
  | .scalar '\\' :: .scalar 'n' :: t => .scalar '\n' :: readBreaks t
  | .scalar '\n' :: t => readBreaks t
  | c :: t => c :: readBreaks t
  | [] => []

/-- A published text as it is meant to be read, in one pass and with single spaces. -/
def plain (t : Text) : Text := squeeze (readBreaks t)

/-- The text that is left when line breaks were spelled as six percent signs in the meantime,
`count` percent signs having been read before: the sixth one in a row makes a line break, and a line
break comes out ahead of the ones before it. -/
def regroup : Nat → Text → Text
  | count, [] => List.replicate count (.scalar '%')
  | count, c :: t =>
    if c = .scalar '%' then
      if count = 5 then .scalar '\n' :: regroup 0 t else regroup (count + 1) t
    else if c = .scalar '\n' then .scalar '\n' :: regroup count t
    else List.replicate count (.scalar '%') ++ c :: regroup 0 t

/-! ## Marks -/

theorem lineBreakMark_eq : lineBreakMark = List.replicate 6 (.scalar '%') := rfl

/-- A text with its line breaks spelled as marks. -/
def mark (t : Text) : Text :=
  t.flatMap fun c ↦ if c = .scalar '\n' then lineBreakMark else [c]

@[simp] theorem mark_nil : mark [] = [] := rfl

@[simp] theorem mark_newline (t : Text) : mark (.scalar '\n' :: t) = lineBreakMark ++ mark t := rfl

theorem mark_cons {c : CodePoint} (h : c ≠ .scalar '\n') (t : Text) :
    mark (c :: t) = c :: mark t := by
  simp [mark, h]

/-- Marking the escaped line breaks and dropping the raw ones. -/
theorem filter_replaceAll (t : Text) :
    (replaceAll "\\n" lineBreakMark t).filter (· ≠ .scalar '\n') = mark (readBreaks t) := by
  fun_induction readBreaks t with
  | case1 t ih =>
    have hreplace : replaceAll "\\n" lineBreakMark (.scalar '\\' :: .scalar 'n' :: t) =
        lineBreakMark ++ replaceAll "\\n" lineBreakMark t :=
      replaceAll_append lineBreakMark (by decide : ofString "\\n" ≠ []) t
    rw [hreplace, List.filter_append, ih, mark_newline]
    rfl
  | case2 t ih =>
    rw [replaceAll_cons _ (by simp [ofString, List.cons_prefix_cons]),
      List.filter_cons_of_neg (by simp), ih]
  | case3 c t hescaped hraw ih =>
    have hc : c ≠ .scalar '\n' := fun h ↦ hraw h
    have hstart : ¬ ofString "\\n" <+: c :: t := by
      rintro ⟨rest, hrest⟩
      obtain ⟨rfl, rfl⟩ := List.cons.inj hrest
      exact hescaped rest rfl rfl
    rw [replaceAll_cons _ hstart, List.filter_cons_of_pos (by simpa using hc), ih, mark_cons hc]
  | case4 => rfl

theorem squeeze_append {u : Text} (h : .scalar ' ' ∉ u) (t : Text) :
    squeeze (u ++ t) = u ++ squeeze t := by
  induction u with
  | nil => rfl
  | cons c u ih =>
    obtain ⟨hc, hu⟩ := not_or.mp (List.mem_cons.not.mp h)
    rw [List.cons_append, squeeze_cons_of_ne (Ne.symm hc), ih hu, List.cons_append]

theorem head?_mark (t : Text) :
    (mark t).head? = some (.scalar ' ') ↔ t.head? = some (.scalar ' ') := by
  cases t with
  | nil => rfl
  | cons c t =>
    by_cases hc : c = .scalar '\n'
    · subst hc
      simp [lineBreakMark_eq, List.replicate_succ]
    · simp [mark_cons hc]

/-- Runs of spaces can be shortened before or after marking. -/
theorem squeeze_mark (t : Text) : squeeze (mark t) = mark (squeeze t) := by
  induction t with
  | nil => rfl
  | cons c t ih =>
    by_cases hc : c = .scalar '\n'
    · subst hc
      rw [mark_newline, squeeze_append (by simp [lineBreakMark_eq]), ih,
        squeeze_cons_of_ne (by simp), mark_newline]
    · have hiff : c = .scalar ' ' ∧ (mark t).head? = some (.scalar ' ') ↔
          c = .scalar ' ' ∧ t.head? = some (.scalar ' ') := and_congr_right' (head?_mark t)
      rw [mark_cons hc, squeeze, squeeze]
      by_cases hspaces : c = .scalar ' ' ∧ t.head? = some (.scalar ' ')
      · rw [if_pos (hiff.mpr hspaces), if_pos hspaces, ih]
      · rw [if_neg (hiff.not.mpr hspaces), if_neg hspaces, ih, mark_cons hc]

/-! ## Percent signs -/

/-- Percent signs too few for a mark stay as they are if no other one follows. -/
theorem replaceAll_percents {count : Nat} (h : count < 6) {t : Text}
    (ht : t.head? ≠ some (.scalar '%')) :
    replaceAll lineBreakMark "\n" (List.replicate count (.scalar '%') ++ t) =
      List.replicate count (.scalar '%') ++ replaceAll lineBreakMark "\n" t := by
  induction count with
  | zero => rfl
  | succ count ih =>
    have hshort : ¬ lineBreakMark <+: List.replicate (count + 1) (.scalar '%') ++ t := by
      obtain ⟨missing, hmissing⟩ : ∃ missing, 6 = (count + 1) + (missing + 1) :=
        ⟨4 - count, by omega⟩
      rw [lineBreakMark_eq, hmissing, List.replicate_add, List.prefix_append_right_inj]
      rintro ⟨rest, rfl⟩
      exact ht rfl
    rw [List.replicate_succ, List.cons_append] at hshort ⊢
    rw [replaceAll_cons _ hshort, ih (by omega), List.cons_append]

/-- Reading the marks of a text in which percent signs may stand for themselves as well. -/
theorem replaceAll_mark {count : Nat} (h : count < 6) (t : Text) :
    replaceAll lineBreakMark "\n" (List.replicate count (.scalar '%') ++ mark t) =
      regroup count t := by
  induction t generalizing count with
  | nil =>
    rw [mark_nil, replaceAll_percents h (by simp), regroup]
    exact List.append_nil _
  | cons c t ih =>
    by_cases hc : c = .scalar '%'
    · subst hc
      have hmore : List.replicate count (.scalar '%') ++ mark (.scalar '%' :: t) =
          List.replicate (count + 1) (.scalar '%') ++ mark t := by
        rw [mark_cons (by simp), List.replicate_succ', List.append_assoc, List.singleton_append]
      rw [hmore, regroup, if_pos rfl]
      by_cases hcount : count = 5
      · subst hcount
        rw [if_pos rfl, ← lineBreakMark_eq, replaceAll_append _ (by decide), ← ih (by omega)]
        rfl
      · rw [if_neg hcount, ih (by omega)]
    · rw [regroup, if_neg hc]
      by_cases hbreak : c = .scalar '\n'
      · subst hbreak
        -- the first six percent signs are read, wherever the mark began
        have hfirst : List.replicate count (.scalar '%') ++ mark (.scalar '\n' :: t) =
            lineBreakMark ++ (List.replicate count (.scalar '%') ++ mark t) := by
          rw [mark_newline, lineBreakMark_eq, ← List.append_assoc, ← List.append_assoc,
            ← List.replicate_add, ← List.replicate_add, Nat.add_comm]
        rw [if_pos rfl, hfirst, replaceAll_append _ (by decide), ih h]
        rfl
      · have hstart : ¬ lineBreakMark <+: c :: mark t := by
          rw [lineBreakMark_eq, List.replicate_succ, List.cons_prefix_cons]
          exact fun hstart ↦ hc hstart.1.symm
        have hhead : (c :: mark t).head? ≠ some (.scalar '%') := by simpa using hc
        rw [if_neg hbreak, mark_cons hbreak, replaceAll_percents h hhead, replaceAll_cons _ hstart,
          ← ih (by omega : 0 < 6)]
        rfl

theorem unwrap_eq_regroup (t : Text) : unwrap t = regroup 0 (plain t) := by
  rw [unwrap, collapseSpaces_eq_squeeze, filter_replaceAll, squeeze_mark, ← plain,
    ← replaceAll_mark (by omega)]
  rfl

/-- No percent sign stands right before a line break, and no six of them stand together. -/
def PercentsApart (t : Text) : Prop := ¬ ofString "%\n" <:+: t ∧ ¬ lineBreakMark <:+: t

/-- A part does not reach across a code point that it does not have. -/
theorem infix_append_cons {part u : Text} {c : CodePoint} (hc : c ∉ part) (t : Text) :
    part <:+: u ++ c :: t ↔ part <:+: u ∨ part <:+: t := by
  constructor
  · rintro ⟨before, after, h⟩
    -- the part lies before the code point, or begins before it, or lies after it
    rcases List.append_eq_append_iff.mp h with ⟨rest, rfl, rfl⟩ | ⟨rest, hpart, hrest⟩
    · exact .inl ⟨before, rest, rfl⟩
    · cases rest with
      | nil => exact .inl ⟨before, [], by simpa using hpart⟩
      | cons d rest =>
        obtain ⟨rfl, rfl⟩ := List.cons.inj hrest
        rcases List.append_eq_append_iff.mp hpart with ⟨mid, rfl, hmid⟩ | ⟨mid, rfl, hmid⟩
        · exact absurd (by simp [hmid]) hc
        · cases mid with
          | nil =>
            obtain rfl : c :: rest = part := hmid
            exact absurd List.mem_cons_self hc
          | cons e mid =>
            obtain ⟨rfl, rfl⟩ := List.cons.inj hmid
            exact .inr ⟨mid, after, rfl⟩
  · rintro (h | h)
    · exact h.trans (List.prefix_append _ _).isInfix
    · exact h.trans ((List.suffix_cons _ _).trans (List.suffix_append _ _)).isInfix

theorem percentsApart_append_cons {c : CodePoint} (hc : c ≠ .scalar '%')
    (hbreak : c ≠ .scalar '\n') (u t : Text) :
    PercentsApart (u ++ c :: t) ↔ PercentsApart u ∧ PercentsApart t := by
  have hpair : c ∉ ofString "%\n" := by simp [ofString, hc, hbreak]
  have hmark : c ∉ lineBreakMark := by simp [lineBreakMark_eq, hc]
  rw [PercentsApart, PercentsApart, PercentsApart, infix_append_cons hpair,
    infix_append_cons hmark, not_or, not_or, and_and_and_comm]

theorem percentsApart_newline (t : Text) :
    PercentsApart (.scalar '\n' :: t) ↔ PercentsApart t := by
  simp [PercentsApart, List.infix_cons_iff, ofString, lineBreakMark_eq, List.replicate_succ,
    List.cons_prefix_cons]

/-- Few percent signs alone are apart. -/
theorem percentsApart_replicate {count : Nat} (h : count < 6) :
    PercentsApart (List.replicate count (.scalar '%')) := by
  constructor
  · intro hbreak
    have hmem : .scalar '\n' ∈ List.replicate count (CodePoint.scalar '%') :=
      hbreak.subset (by simp [ofString])
    simpa using List.eq_of_mem_replicate hmem
  · intro hmark
    have hlength := hmark.length_le
    rw [lineBreakMark_eq, List.length_replicate, List.length_replicate] at hlength
    omega

/-- Regrouping changes nothing exactly where percent signs are apart. -/
theorem regroup_eq_iff {count : Nat} (h : count < 6) (t : Text) :
    regroup count t = List.replicate count (.scalar '%') ++ t ↔
      PercentsApart (List.replicate count (.scalar '%') ++ t) := by
  induction t generalizing count with
  | nil => simp [regroup, percentsApart_replicate h]
  | cons c t ih =>
    by_cases hc : c = .scalar '%'
    · subst hc
      have hmore : List.replicate count (.scalar '%') ++ .scalar '%' :: t =
          List.replicate (count + 1) (.scalar '%') ++ t := by
        rw [List.replicate_succ', List.append_assoc, List.singleton_append]
      rw [hmore, regroup, if_pos rfl]
      by_cases hcount : count = 5
      · subst hcount
        have hmark : lineBreakMark <:+: List.replicate 6 (.scalar '%') ++ t :=
          (List.prefix_append _ _).isInfix
        exact iff_of_false (by simp [List.replicate_succ]) fun hapart ↦ hapart.2 hmark
      · rw [if_neg hcount, ih (by omega)]
    · rw [regroup, if_neg hc]
      by_cases hbreak : c = .scalar '\n'
      · subst hbreak
        rw [if_pos rfl]
        cases count with
        | zero => simpa [percentsApart_newline] using ih h
        | succ count =>
          have hinfix : ofString "%\n" <:+:
              List.replicate (count + 1) (.scalar '%') ++ .scalar '\n' :: t :=
            ⟨List.replicate count (.scalar '%'), t, by simp [ofString, List.replicate_succ']⟩
          exact iff_of_false (by simp [List.replicate_succ]) fun hapart ↦ hapart.1 hinfix
      · rw [if_neg hbreak, percentsApart_append_cons hc hbreak, List.append_cancel_left_eq,
          List.cons.injEq, and_iff_right rfl, and_iff_right (percentsApart_replicate h)]
        exact ih (by omega : 0 < 6)

/-- A code point is neither a percent sign nor a line break. -/
def isOther (c : CodePoint) : Bool := c ≠ .scalar '%' ∧ c ≠ .scalar '\n'

/-- Regrouping keeps everything that is neither a percent sign nor a line break. -/
theorem filter_regroup (count : Nat) (t : Text) :
    (regroup count t).filter isOther = t.filter isOther := by
  fun_induction regroup count t <;> simp_all [isOther]

/-- Cleaning decodes the references of the text read in one pass, with its percent signs and line
breaks regrouped. This changes the text exactly where a percent sign stands right before a line
break or six of them stand together, and it never touches another code point. -/
theorem clean_regroups (t : Text) :
    clean t = unescape (regroup 0 (plain t)) ∧
      (regroup 0 (plain t) = plain t ↔ PercentsApart (plain t)) ∧
      (regroup 0 (plain t)).filter isOther = (plain t).filter isOther := by
  refine ⟨?_, regroup_eq_iff (by omega : 0 < 6) (plain t), filter_regroup 0 (plain t)⟩
  rw [clean, unwrap_eq_regroup]

/-- A percent sign before an escaped line break comes out after it. -/
theorem clean_moves_percent : clean "%\\n" ≠ unescape (plain "%\\n") := by
  have hclean : clean "%\\n" = .ok "\n%" := by
    rw [clean, unwrap_eq_regroup]
    rfl
  have hplain : unescape (plain "%\\n") = .ok "%\n" := rfl
  rw [hclean, hplain]
  decide

end ScriptDefs.Text
