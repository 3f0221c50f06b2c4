import Mathlib.Data.List.SplitBy

/-!
# Runs

A list falls into its longest stretches of neighbours with a property and the single elements between
them. What is said of a list can be proved stretch by stretch.
-/

namespace ScriptDefs

variable {α : Type} {p : α → Bool}

/-- The parts of a list in order: the longest stretches of elements with a property, and all other
elements on their own. -/
def runs (p : α → Bool) (l : List α) : List (List α) := l.splitBy fun a b ↦ p a && p b

@[simp] theorem runs_nil : runs p [] = [] := List.splitBy_nil _

/-- An element without the property stands on its own. -/
theorem runs_cons {a : α} (ha : p a = false) (l : List α) : runs p (a :: l) = [a] :: runs p l := by
  have happend : ([a] ++ l).splitBy (fun a b ↦ p a && p b) = [[a]] ++ runs p l :=
    List.splitBy_append (by simp [ha])
  exact happend

/-- Elements with the property form one run when none with the property follows them. -/
theorem runs_append {l m : List α} (hne : l ≠ []) (hl : ∀ a ∈ l, p a = true)
    (hm : ∀ b ∈ m.head?, p b = false) : runs p (l ++ m) = l :: runs p m := by
  have hchain : l.IsChain fun a b ↦ (p a && p b) = true :=
    (List.pairwise_of_forall_mem_list fun a ha b hb ↦ by simp [hl a ha, hl b hb]).isChain
  rw [runs, List.splitBy_append fun a _ b hb ↦ by simp [hm b hb], List.splitBy_of_isChain hne hchain]
  rfl

/-- A list is empty, or it begins with an element without the property, or with a whole run. -/
theorem runs_induction {motive : List α → Prop} (nil : motive [])
    (cons : ∀ a l, p a = false → motive l → motive (a :: l))
    (run : ∀ l m, l ≠ [] → (∀ a ∈ l, p a = true) → (∀ b ∈ m.head?, p b = false) → motive m →
      motive (l ++ m)) (l : List α) : motive l := by
  induction h : l.length using Nat.strong_induction_on generalizing l with
  | _ n ih =>
    subst h
    cases l with
    | nil => exact nil
    | cons a l =>
      cases ha : p a with
      | false => exact cons a l ha (ih l.length (by simp) l rfl)
      | true =>
        have htake : (a :: l).takeWhile p = a :: l.takeWhile p := List.takeWhile_cons_of_pos ha
        have hall : ∀ b ∈ (a :: l).takeWhile p, p b = true :=
          List.all_eq_true.mp List.all_takeWhile
        have hhead : ∀ b ∈ (l.dropWhile p).head?, p b = false := fun b hb ↦ by
          have hnot := List.head?_dropWhile_not p l
          rwa [Option.mem_def.mp hb] at hnot
        have hshort : (l.dropWhile p).length < (a :: l).length :=
          Nat.lt_succ_of_le (List.dropWhile_suffix p).length_le
        rw [← List.takeWhile_append_dropWhile (p := p) (l := a :: l),
          List.dropWhile_cons_of_pos ha]
        exact run _ _ (by simp [htake]) hall hhead (ih _ hshort _ rfl)

end ScriptDefs
