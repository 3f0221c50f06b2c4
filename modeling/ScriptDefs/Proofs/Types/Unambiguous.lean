import ScriptDefs.Proofs.Data.Outcome
import ScriptDefs.Proofs.Types.Outline
import ScriptDefs.Proofs.Types.Undescribed

/-!
# Unambiguous types

Types that are printed with the same text have the same outline, so they differ at most in their
descriptions and in which function alternatives belong to: a function is printed without
parentheses, also where it stands in a union, so that what stands after it reads as a result of it.
Types in which no function that is open in this way stands before the end of a union are known
from their text.
-/

namespace ScriptDefs

/-! ## Regular types -/

mutual

/-- A type of simple types other than `self` and the empty table, of tables with elements, and of
functions with named arguments and one result. -/
def BaseType.Regular : BaseType → Prop
  | .simple s => s ≠ .self ∧ s ≠ .emptyTable
  | .literal _ | .custom _ => False
  | .function s => s.Regular
  | .table elements => elements ≠ [] ∧ BaseType.AllRegular elements

/-- All types are regular. -/
def BaseType.AllRegular : List BaseType → Prop
  | [] => True
  | t :: rest => t.Regular ∧ BaseType.AllRegular rest

/-- An argument with a word as its name that stands for one value which has to be there. -/
def Variable.IsArgument : Variable → Prop
  | .mk name _ types variadic optional =>
    (∃ n : Text, name = .text n ∧ n.IsWord) ∧ variadic = false ∧ optional = false ∧ types ≠ [] ∧
      BaseType.AllRegular types

/-- All variables are such arguments. -/
def Variable.AllArguments : List Variable → Prop
  | [] => True
  | v :: rest => v.IsArgument ∧ Variable.AllArguments rest

/-- A result without a name that has to be there; it may stand for any number of values. -/
def Variable.IsResult : Variable → Prop
  | .mk name _ types _ optional =>
    name = .text [] ∧ optional = false ∧ types ≠ [] ∧ BaseType.AllRegular types

/-- Arguments with names and a single result without one. -/
def Signature.Regular : Signature → Prop
  | .mk args [result] => Variable.AllArguments args ∧ result.IsResult
  | _ => False

end

/-! ## Outlines of types -/

/-- A row whose first alternative is the result of a function. -/
def Outline.lead (args : List Parameter) (dotted : Bool) : List Outline → List Outline
  | [] => []
  | o :: rest => .function args dotted o :: rest

mutual

/-- The alternatives that the text of a type shows. -/
def BaseType.outlines : BaseType → List Outline
  | .simple s => [.simple s]
  | .literal _ | .custom _ => []
  | .function s => s.outlines
  | .table elements => [.table (BaseType.allOutlines elements)]

/-- The alternatives that the text of a union shows. -/
def BaseType.allOutlines : List BaseType → List Outline
  | [] => []
  | t :: rest => t.outlines ++ BaseType.allOutlines rest

/-- What the text of an argument shows. -/
def Variable.parameter : Variable → Parameter
  | .mk name _ types _ _ => .mk name.display (BaseType.allOutlines types)

/-- What the text of arguments shows. -/
def Variable.parameters : List Variable → List Parameter
  | [] => []
  | v :: rest => v.parameter :: Variable.parameters rest

/-- What the text of a result shows after arguments. -/
def Variable.outlines (args : List Parameter) : Variable → List Outline
  | .mk _ _ types variadic _ =>
    if variadic && 1 < types.length then [.group args (BaseType.allOutlines types)]
    else Outline.lead args variadic (BaseType.allOutlines types)

/-- The alternatives that the text of a function shows. -/
def Signature.outlines : Signature → List Outline
  | .mk args [result] => result.outlines (Variable.parameters args)
  | _ => []

end

/-! ## The text of an outline -/

namespace Outline

theorem allWellFormed_append {xs ys : List Outline} (hx : AllWellFormed xs) (hy : AllWellFormed ys) :
    AllWellFormed (xs ++ ys) := by
  induction xs with
  | nil => exact hy
  | cons x xs ih => exact ⟨hx.1, ih hx.2⟩

theorem lead_ne_nil {args : List Parameter} {dotted : Bool} {row : List Outline} (h : row ≠ []) :
    lead args dotted row ≠ [] := by
  obtain ⟨o, rest, rfl⟩ := List.exists_cons_of_ne_nil h
  exact List.cons_ne_nil _ _

theorem allWellFormed_lead {args : List Parameter} (hargs : Parameter.AllWellFormed args)
    (dotted : Bool) {row : List Outline} (h : AllWellFormed row) :
    AllWellFormed (lead args dotted row) := by
  cases row with
  | nil => trivial
  | cons o rest => exact ⟨⟨hargs, h.1⟩, h.2⟩

/-- A function stands before the text of its results. -/
theorem rowText_lead (args : List Parameter) (dotted : Bool) {row : List Outline} (h : row ≠ []) :
    rowText (lead args dotted row) =
      Parameter.enclosed (Parameter.texts args) ++ (dots dotted ++ rowText row) := by
  obtain ⟨o, rest, rfl⟩ := List.exists_cons_of_ne_nil h
  rw [lead, rowText_cons, rowText_cons, text]
  simp

theorem rowRest_append (xs : List Outline) {ys : List Outline} (hy : ys ≠ []) :
    rowRest (xs ++ ys) = rowRest xs ++ .scalar '|' :: rowText ys := by
  induction xs with
  | nil =>
    obtain ⟨y, ys, rfl⟩ := List.exists_cons_of_ne_nil hy
    rfl
  | cons x xs ih =>
    rw [List.cons_append, rowRest, rowText_cons, ih, rowRest, rowText_cons]
    simp

theorem rowText_append {xs ys : List Outline} (hx : xs ≠ []) (hy : ys ≠ []) :
    rowText (xs ++ ys) = rowText xs ++ .scalar '|' :: rowText ys := by
  obtain ⟨x, xs, rfl⟩ := List.exists_cons_of_ne_nil hx
  rw [List.cons_append, rowText_cons, rowRest_append xs hy, rowText_cons, List.append_assoc]

/-- A row is not the text of the type that is never printed. -/
theorem rowText_ne_self {row : List Outline} (h : row ≠ []) (hrow : AllWellFormed row) :
    rowText row ≠ SimpleType.self.name := by
  obtain ⟨o, rest, rfl⟩ := List.exists_cons_of_ne_nil h
  intro e
  rw [rowText_cons, ← List.append_nil SimpleType.self.name] at e
  rcases text_cases hrow.1 with ⟨s, rfl, hs⟩ | ⟨m, hm, t, ht⟩
  · have hrest := startsIn_rowRest rest (r := []) Text.startsIn_nil
    rw [List.append_nil] at hrest
    obtain ⟨hname, -⟩ := Text.word_append_inj hs.2 (by decide)
      (fun c hc ↦ hrest.not_isWordPart hc) (by simp) e
    exact hrow.1.1 (SimpleType.name_inj hname)
  · have hself : SimpleType.self.name.IsWord := by decide
    rw [ht] at e
    exact hself.append_ne_cons (not_isWordPart_of_mem hm) e.symm

end Outline

/-! ## Outlines of regular types -/

-- Along types, unions, arguments and results.
mutual

/-- A regular type shows at least one alternative, and all that it shows is well-formed. -/
theorem BaseType.outlines_wellFormed : (t : BaseType) → t.Regular →
    t.outlines ≠ [] ∧ Outline.AllWellFormed t.outlines
  | .simple _, h => ⟨List.cons_ne_nil _ _, h, trivial⟩
  | .function s, h => Signature.outlines_wellFormed s h
  | .table elements, h =>
    ⟨List.cons_ne_nil _ _, BaseType.allOutlines_wellFormed elements h.1 h.2, trivial⟩

theorem BaseType.allOutlines_wellFormed : (types : List BaseType) → types ≠ [] →
    BaseType.AllRegular types →
    BaseType.allOutlines types ≠ [] ∧ Outline.AllWellFormed (BaseType.allOutlines types)
  | [], hne, _ => (hne rfl).elim
  | [t], _, h => by
    rw [BaseType.allOutlines, BaseType.allOutlines, List.append_nil]
    exact BaseType.outlines_wellFormed t h.1
  | t :: u :: rest, _, h => by
    have ht := BaseType.outlines_wellFormed t h.1
    have hrest := BaseType.allOutlines_wellFormed (u :: rest) (List.cons_ne_nil _ _) h.2
    rw [BaseType.allOutlines]
    exact ⟨List.append_ne_nil_of_left_ne_nil ht.1 _, Outline.allWellFormed_append ht.2 hrest.2⟩

theorem Variable.parameter_wellFormed : (v : Variable) → v.IsArgument → v.parameter.WellFormed
  | .mk name _ types _ _, ⟨⟨n, hname, hword⟩, _, _, hne, h⟩ => by
    rw [hname]
    exact ⟨hword, BaseType.allOutlines_wellFormed types hne h⟩

theorem Variable.parameters_wellFormed : (vs : List Variable) → Variable.AllArguments vs →
    Parameter.AllWellFormed (Variable.parameters vs)
  | [], _ => trivial
  | v :: rest, h => ⟨Variable.parameter_wellFormed v h.1, Variable.parameters_wellFormed rest h.2⟩

theorem Variable.outlines_wellFormed {args : List Parameter} (hargs : Parameter.AllWellFormed args) :
    (v : Variable) → v.IsResult → v.outlines args ≠ [] ∧ Outline.AllWellFormed (v.outlines args)
  | .mk _ _ types variadic _, ⟨_, _, hne, h⟩ => by
    have hrow := BaseType.allOutlines_wellFormed types hne h
    rw [Variable.outlines]
    split
    · exact ⟨List.cons_ne_nil _ _, ⟨hargs, hrow⟩, trivial⟩
    · exact ⟨Outline.lead_ne_nil hrow.1, Outline.allWellFormed_lead hargs variadic hrow.2⟩

theorem Signature.outlines_wellFormed : (s : Signature) → s.Regular →
    s.outlines ≠ [] ∧ Outline.AllWellFormed s.outlines
  | .mk args [result], h =>
    Variable.outlines_wellFormed (Variable.parameters_wellFormed args h.1) result h.2

end

/-! ## The text of a type -/

/-- A union is shown with bars between what its types show. -/
theorem BaseType.joinWith_outlines {types : List BaseType} (hne : types ≠ [])
    (h : BaseType.AllRegular types) :
    Text.joinWith "|" (types.map fun t ↦ Outline.rowText t.outlines) =
      Outline.rowText (BaseType.allOutlines types) := by
  induction types with
  | nil => exact (hne rfl).elim
  | cons t rest ih =>
    cases rest with
    | nil => simp [BaseType.allOutlines]
    | cons u rest =>
      have ht := BaseType.outlines_wellFormed t h.1
      have hrest := BaseType.allOutlines_wellFormed (u :: rest) (List.cons_ne_nil _ _) h.2
      rw [BaseType.allOutlines, Outline.rowText_append ht.1 hrest.1, ← ih (List.cons_ne_nil _ _) h.2]
      rfl

/-- No type of a regular union is left out from its text. -/
theorem BaseType.filter_outlines {types : List BaseType} (h : BaseType.AllRegular types) :
    (types.map fun t ↦ Outline.rowText t.outlines).filter (· ≠ Text.ofString "self") =
      types.map fun t ↦ Outline.rowText t.outlines := by
  induction types with
  | nil => rfl
  | cons t rest ih =>
    have ht := BaseType.outlines_wellFormed t h.1
    have hself : Outline.rowText t.outlines ≠ Text.ofString "self" :=
      Outline.rowText_ne_self ht.1 ht.2
    rw [List.map_cons, List.filter_cons_of_pos (by simpa using hself), ih h.2]

/-- A regular union is marked by dots, and by parentheses if there are several types. -/
theorem Variable.markedTypes_eq {types : List BaseType} (hne : types ≠ [])
    (h : BaseType.AllRegular types) (several variadic : Bool) :
    Variable.markedTypes (types.map fun t ↦ Outline.rowText t.outlines) several variadic false =
      Outline.dots variadic ++
        if variadic && several then
          .scalar '(' :: Outline.rowText (BaseType.allOutlines types) ++ [.scalar ')']
        else Outline.rowText (BaseType.allOutlines types) := by
  rw [Variable.markedTypes, BaseType.filter_outlines h, BaseType.joinWith_outlines hne h]
  cases variadic <;> cases several <;> rfl

theorem Outline.rowText_ne_nil {row : List Outline} (h : row ≠ []) (hrow : AllWellFormed row) :
    rowText row ≠ [] := by
  obtain ⟨o, rest, rfl⟩ := List.exists_cons_of_ne_nil h
  rw [rowText_cons]
  rcases text_cases hrow.1 with ⟨s, rfl, hs⟩ | ⟨m, _, t, ht⟩
  · exact List.append_ne_nil_of_left_ne_nil hs.1 _
  · rw [ht]
    exact List.cons_ne_nil _ _

/-- What a variable is printed as, but for its name, if it has a regular union as its types. -/
theorem Variable.format_mk {types : List BaseType} {texts : List Text}
    (htexts : BaseType.formatAll types = .ok texts) (name desc : Datum) (variadic optional : Bool) :
    Variable.format false (.mk name desc types variadic optional) =
      Variable.named name
        (Variable.markedTypes texts (1 < types.length) variadic optional) variadic := by
  rw [Variable.format, htexts]
  rfl

theorem Datum.commaSeparated_text (ts : List Text) :
    commaSeparated (ts.map text) = .ok (Text.joinWith ", " ts) := by
  have htexts : (ts.map text).mapM asText = .ok ts := by
    induction ts with
    | nil => rfl
    | cons t ts ih => rw [List.map_cons, List.mapM_cons, ih, asText, ok_bind, ok_bind]; rfl
  rw [commaSeparated, htexts, ok_bind]
  rfl

-- Along the printers.
mutual

/-- A regular type is printed as the row of its alternatives. -/
theorem BaseType.format_eq : (t : BaseType) → t.Regular →
    t.format = .ok (Outline.rowText t.outlines)
  | .simple s, _ => by simp [BaseType.format, BaseType.outlines, Outline.rowText, Outline.texts, Outline.text]
  | .function s, h => Signature.format_eq s h
  | .table elements, h => by
    rw [BaseType.format, BaseType.formatAll_eq elements h.2, ok_bind,
      BaseType.joinWith_outlines h.1 h.2]
    simp [BaseType.outlines, Outline.rowText, Outline.texts, Outline.text]

theorem BaseType.formatAll_eq : (types : List BaseType) → BaseType.AllRegular types →
    BaseType.formatAll types = .ok (types.map fun t ↦ Outline.rowText t.outlines)
  | [], _ => rfl
  | t :: rest, h => by
    rw [BaseType.formatAll, BaseType.format_eq t h.1, ok_bind, BaseType.formatAll_eq rest h.2, ok_bind]
    rfl

theorem Variable.format_argument : (v : Variable) → v.IsArgument →
    v.format false = .ok (.text v.parameter.text)
  | .mk name desc types variadic optional, ⟨⟨n, hname, hword⟩, hvariadic, hoptional, hne, h⟩ => by
    have hrow := BaseType.allOutlines_wellFormed types hne h
    have htext : (Outline.rowText (BaseType.allOutlines types)).isEmpty = false :=
      List.isEmpty_eq_false_iff.mpr (Outline.rowText_ne_nil hrow.1 hrow.2)
    have htruthy : (Datum.text n).isTruthy = true := by
      simpa [Datum.isTruthy, Scalar.isTruthy] using hword.1
    have hshown : (Datum.text n).inText = .ok n := rfl
    rw [Variable.format_mk (BaseType.formatAll_eq types h), hname, hvariadic, hoptional,
      Variable.markedTypes_eq hne h, Variable.named, htruthy]
    simp only [Outline.dots, Bool.not_false, Bool.and_self, if_true, Bool.false_and,
      Bool.false_eq_true, if_false, List.nil_append, htext, hshown, ok_bind]
    rw [Variable.parameter, Parameter.text, List.append_assoc]
    rfl

theorem Variable.formatAll_arguments : (vs : List Variable) → Variable.AllArguments vs →
    Variable.formatAll false vs = .ok ((Parameter.texts (Variable.parameters vs)).map Datum.text)
  | [], _ => rfl
  | v :: rest, h => by
    rw [Variable.formatAll, Variable.format_argument v h.1, ok_bind,
      Variable.formatAll_arguments rest h.2, ok_bind]
    rfl

theorem Signature.format_eq : (s : Signature) → s.Regular →
    s.format arrow false = .ok (Outline.rowText s.outlines)
  | .mk args [.mk name desc types variadic optional], ⟨hargs, hname, hoptional, hne, h⟩ => by
    have hrow := BaseType.allOutlines_wellFormed types hne h
    have hresult : Variable.formatAll false [.mk name desc types variadic optional] =
        .ok ([Variable.markedTypes (types.map fun t ↦ Outline.rowText t.outlines)
          (1 < types.length) variadic optional].map Datum.text) := by
      rw [Variable.formatAll, Variable.format_mk (BaseType.formatAll_eq types h), hname]
      rfl
    rw [Signature.format, Variable.formatAll_arguments args hargs, ok_bind, Datum.commaSeparated_text,
      ok_bind, hresult, ok_bind, Datum.commaSeparated_text, ok_bind, hoptional,
      Variable.markedTypes_eq hne h, Text.joinWith_singleton, Signature.outlines, Variable.outlines]
    split
    · next hgroup =>
      obtain ⟨rfl, _⟩ := Bool.and_eq_true_iff.mp hgroup
      simp [Outline.rowText, Outline.texts, Outline.text, Parameter.enclosed]
    · rw [Outline.rowText_lead _ _ hrow.1]
      simp [Parameter.enclosed]

end

/-! ## Types that are known from their text -/

mutual

/-- What stands after the type in a union reads as a result of it. -/
def BaseType.isOpen : BaseType → Bool
  | .function s => s.isOpen
  | _ => false

/-- The last of some types is open. -/
def BaseType.endsOpen : List BaseType → Bool
  | [] => false
  | [t] => t.isOpen
  | _ :: rest => BaseType.endsOpen rest

/-- Results of any number are open only if there is one type of them, and that is open. -/
def Variable.isOpen : Variable → Bool
  | .mk _ _ types variadic _ =>
    !variadic || (types.length ≤ 1 && BaseType.endsOpen types)

/-- A function is open if its result is. -/
def Signature.isOpen : Signature → Bool
  | .mk _ [result] => result.isOpen
  | _ => false

end

mutual

/-- In all unions within the type only the last type is open. -/
def BaseType.Settled : BaseType → Prop
  | .simple _ | .literal _ | .custom _ => True
  | .function s => s.Settled
  | .table elements => BaseType.UnionSettled elements

/-- All types of a union are settled, and only the last one is open. -/
def BaseType.UnionSettled : List BaseType → Prop
  | [] => True
  | t :: rest => t.Settled ∧ (rest ≠ [] → t.isOpen = false) ∧ BaseType.UnionSettled rest

/-- The types of a variable are settled. -/
def Variable.Settled : Variable → Prop
  | .mk _ _ types _ _ => BaseType.UnionSettled types

/-- All variables are settled. -/
def Variable.AllSettled : List Variable → Prop
  | [] => True
  | v :: rest => v.Settled ∧ Variable.AllSettled rest

/-- All arguments and results are settled. -/
def Signature.Settled : Signature → Prop
  | .mk args results => Variable.AllSettled args ∧ Variable.AllSettled results

end

/-- A function that shows only the first of its results, unless it is closed by parentheses. -/
def Outline.isOpen : Outline → Bool
  | .simple _ | .table _ | .group _ _ => false
  | .function _ dotted result => !dotted || result.isOpen

/-- A row of a single alternative that is not open, or one that begins with an open one. -/
def Outline.Begins (isOpen : Bool) : List Outline → Prop
  | [] => False
  | o :: rest => o.isOpen = isOpen ∧ (isOpen = false → rest = [])

/-- It is seen from the outline of a type whether the type is open. -/
theorem BaseType.begins_outlines : (t : BaseType) → t.Regular → Outline.Begins t.isOpen t.outlines
  | .simple _, _ | .table _, _ => ⟨rfl, fun _ ↦ rfl⟩
  | .function (.mk _ [.mk _ _ [] _ _]), ⟨_, _, _, hne, _⟩ => (hne rfl).elim
  | .function (.mk _ [.mk _ _ (t :: rest) false _]), ⟨_, _, _, _, h⟩ => by
    obtain ⟨o, row, hrow⟩ := List.exists_cons_of_ne_nil
      (BaseType.allOutlines_wellFormed (t :: rest) (List.cons_ne_nil _ _) h).1
    rw [BaseType.outlines, Signature.outlines, Variable.outlines, hrow]
    exact ⟨rfl, nofun⟩
  | .function (.mk _ [.mk _ _ [t] true _]), ⟨_, _, _, _, h⟩ => by
    have ht := BaseType.begins_outlines t h.1
    rw [BaseType.outlines, Signature.outlines, Variable.outlines, BaseType.allOutlines,
      BaseType.allOutlines, List.append_nil]
    generalize t.outlines = row at ht
    cases row with
    | nil => exact ht
    | cons o row => exact ⟨ht.1, fun hopen ↦ ht.2 hopen⟩
  | .function (.mk _ [.mk _ _ (_ :: _ :: _) true _]), _ => ⟨rfl, fun _ ↦ rfl⟩

namespace Outline

theorem lead_inj {args args' : List Parameter} {dotted dotted' : Bool} {row row' : List Outline}
    (hrow : row ≠ []) (h : lead args dotted row = lead args' dotted' row') :
    args = args' ∧ dotted = dotted' ∧ row = row' := by
  obtain ⟨o, rest, rfl⟩ := List.exists_cons_of_ne_nil hrow
  cases row' with
  | nil => cases h
  | cons o' rest' =>
    cases h
    exact ⟨rfl, rfl, rfl⟩

theorem lead_ne_group {args args' : List Parameter} {dotted : Bool} {row results : List Outline} :
    lead args dotted row ≠ [.group args' results] := by
  cases row <;> simp [lead]

/-- Where two rows begin with parts of this kind and nothing follows an open one, the parts are the
same. -/
theorem Begins.append_inj {a b : Bool} {xs ys zs ws : List Outline} (hx : Begins a xs)
    (hy : Begins b ys) (hzs : zs ≠ [] → a = false) (hws : ws ≠ [] → b = false)
    (h : xs ++ zs = ys ++ ws) : xs = ys ∧ zs = ws := by
  match xs, ys, hx, hy with
  | o :: rest, o' :: rest', ⟨ho, hrest⟩, ⟨ho', hrest'⟩ =>
    obtain ⟨rfl, htail⟩ := List.cons.inj h
    obtain rfl : a = b := ho.symm.trans ho'
    cases a with
    | false =>
      rw [hrest rfl, hrest' rfl] at htail ⊢
      exact ⟨rfl, htail⟩
    | true =>
      obtain rfl : zs = [] := not_not.mp fun hne ↦ nomatch hzs hne
      obtain rfl : ws = [] := not_not.mp fun hne ↦ nomatch hws hne
      exact ⟨by simpa using h, rfl⟩

end Outline

/-- The outline of a function shows its arguments. -/
theorem Signature.outlines_ne {s : Signature} {o : Outline}
    (h : ∀ args dotted result, o ≠ .function args dotted result)
    (h' : ∀ args results, o ≠ .group args results) : s.outlines ≠ [o] := by
  intro e
  match s with
  | .mk args [.mk _ _ types variadic _] =>
    rw [Signature.outlines, Variable.outlines] at e
    split at e
    · exact h' _ _ (List.cons.inj e).1.symm
    · cases hrow : BaseType.allOutlines types with
      | nil =>
        rw [hrow] at e
        cases e
      | cons o' rest =>
        rw [hrow] at e
        exact h _ _ _ (List.cons.inj e).1.symm
  | .mk args [] => cases e
  | .mk args (_ :: _ :: _) => cases e

/-- The outline of a function tells its arguments from what its result shows. -/
theorem Variable.outlines_inj {args args' : List Parameter} {v w : Variable}
    (hne : BaseType.allOutlines v.types ≠ []) (h : v.outlines args = w.outlines args') :
    args = args' ∧ v.variadic = w.variadic ∧
      BaseType.allOutlines v.types = BaseType.allOutlines w.types := by
  obtain ⟨_, _, types, variadic, _⟩ := v
  obtain ⟨_, _, types', variadic', _⟩ := w
  rw [Variable.outlines, Variable.outlines] at h
  split at h <;> split at h
  · next hgroup hgroup' =>
    injection h with h _
    injection h with hargs htypes
    exact ⟨hargs, ((Bool.and_eq_true_iff.mp hgroup).1).trans (Bool.and_eq_true_iff.mp hgroup').1.symm,
      htypes⟩
  · exact (Outline.lead_ne_group h.symm).elim
  · exact (Outline.lead_ne_group h).elim
  · exact Outline.lead_inj hne h

-- Along the types of the first of two outlines.
mutual

/-- Settled types with the same outline are the same, descriptions apart. -/
theorem BaseType.outlines_inj : (t : BaseType) → ∀ {u : BaseType}, t.Regular → u.Regular →
    t.Settled → u.Settled → t.outlines = u.outlines → t.withoutDescs = u.withoutDescs
  | .simple s, .simple s', _, _, _, _, h => by
    cases h
    rfl
  | .simple _, .table _, _, _, _, _, h => by cases h
  | .simple _, .function _, _, _, _, _, h =>
    (Signature.outlines_ne (by simp) (by simp) h.symm).elim
  | .table _, .simple _, _, _, _, _, h => by cases h
  | .table elements, .table elements', ht, hu, hts, hus, h => by
    injection h with h _
    injection h with h
    rw [BaseType.withoutDescs, BaseType.withoutDescs,
      BaseType.allOutlines_inj elements ht.2 hu.2 hts hus h]
  | .table _, .function _, _, _, _, _, h =>
    (Signature.outlines_ne (by simp) (by simp) h.symm).elim
  | .function _, .simple _, _, _, _, _, h => (Signature.outlines_ne (by simp) (by simp) h).elim
  | .function _, .table _, _, _, _, _, h => (Signature.outlines_ne (by simp) (by simp) h).elim
  | .function f, .function g, ht, hu, hts, hus, h =>
    congrArg BaseType.function (Signature.outlines_inj f ht hu hts hus h)

theorem BaseType.allOutlines_inj : (ts : List BaseType) → ∀ {us : List BaseType},
    BaseType.AllRegular ts → BaseType.AllRegular us → BaseType.UnionSettled ts →
    BaseType.UnionSettled us → BaseType.allOutlines ts = BaseType.allOutlines us →
    BaseType.allWithoutDescs ts = BaseType.allWithoutDescs us
  | [], [], _, _, _, _, _ => rfl
  | [], u :: us, _, hu, _, _, h =>
    ((BaseType.allOutlines_wellFormed (u :: us) (List.cons_ne_nil _ _) hu).1 h.symm).elim
  | t :: ts, [], ht, _, _, _, h =>
    ((BaseType.allOutlines_wellFormed (t :: ts) (List.cons_ne_nil _ _) ht).1 h).elim
  | t :: ts, u :: us, ht, hu, hts, hus, h => by
    have hlast {v : BaseType} {vs : List BaseType} (hv : BaseType.UnionSettled (v :: vs))
        (hne : BaseType.allOutlines vs ≠ []) : v.isOpen = false :=
      hv.2.1 fun hnil ↦ hne (by rw [hnil]; rfl)
    obtain ⟨hfirst, hrest⟩ := (BaseType.begins_outlines t ht.1).append_inj
      (BaseType.begins_outlines u hu.1) (hlast hts) (hlast hus) h
    rw [BaseType.allWithoutDescs, BaseType.allWithoutDescs,
      BaseType.outlines_inj t ht.1 hu.1 hts.1 hus.1 hfirst,
      BaseType.allOutlines_inj ts ht.2 hu.2 hts.2.2 hus.2.2 hrest]

theorem Variable.parameter_inj : (v : Variable) → ∀ {w : Variable}, v.IsArgument → w.IsArgument →
    v.Settled → w.Settled → v.parameter = w.parameter → v.withoutDescs = w.withoutDescs
  | .mk _ _ types _ _, .mk _ _ types' _ _, ⟨⟨n, hname, _⟩, hvariadic, hoptional, _, h⟩,
      ⟨⟨n', hname', _⟩, hvariadic', hoptional', _, h'⟩, hs, hs', heq => by
    subst hname hname' hvariadic hvariadic' hoptional hoptional'
    injection heq with hname htypes
    obtain rfl : n = n' := hname
    rw [Variable.withoutDescs, Variable.withoutDescs,
      BaseType.allOutlines_inj types h h' hs hs' htypes]

theorem Variable.parameters_inj : (vs : List Variable) → ∀ {ws : List Variable},
    Variable.AllArguments vs → Variable.AllArguments ws → Variable.AllSettled vs →
    Variable.AllSettled ws → Variable.parameters vs = Variable.parameters ws →
    Variable.allWithoutDescs vs = Variable.allWithoutDescs ws
  | [], [], _, _, _, _, _ => rfl
  | [], _ :: _, _, _, _, _, h => nomatch h
  | _ :: _, [], _, _, _, _, h => nomatch h
  | v :: vs, w :: ws, hv, hw, hvs, hws, h => by
    injection h with hfirst hrest
    rw [Variable.allWithoutDescs, Variable.allWithoutDescs,
      Variable.parameter_inj v hv.1 hw.1 hvs.1 hws.1 hfirst,
      Variable.parameters_inj vs hv.2 hw.2 hvs.2 hws.2 hrest]

theorem Signature.outlines_inj : (s : Signature) → ∀ {s' : Signature}, s.Regular → s'.Regular →
    s.Settled → s'.Settled → s.outlines = s'.outlines → s.withoutDescs = s'.withoutDescs
  | .mk args [.mk name desc types variadic optional],
      .mk args' [.mk name' desc' types' variadic' optional'],
      ⟨hargs, hname, hoptional, hne, h⟩, ⟨hargs', hname', hoptional', hne', h'⟩, hs, hs', heq => by
    obtain ⟨hargsEq, hvariadic, htypes⟩ := Variable.outlines_inj
      (v := .mk name desc types variadic optional) (w := .mk name' desc' types' variadic' optional')
      (BaseType.allOutlines_wellFormed types hne h).1 heq
    obtain rfl : variadic = variadic' := hvariadic
    subst hname hname' hoptional hoptional'
    rw [Signature.withoutDescs, Signature.withoutDescs,
      Variable.parameters_inj args hargs hargs' hs.1 hs'.1 hargsEq]
    simp only [Variable.allWithoutDescs, Variable.withoutDescs]
    rw [BaseType.allOutlines_inj types h h' hs.2.1 hs'.2.1 htypes]

end

/-! ## Equal texts -/

/-- Unions of regular types have the same text exactly if they show the same alternatives. -/
theorem BaseType.formatUnion_eq_iff {ts us : List BaseType} (hts : ts ≠ []) (hus : us ≠ [])
    (ht : BaseType.AllRegular ts) (hu : BaseType.AllRegular us) :
    BaseType.formatUnion ts = BaseType.formatUnion us ↔
      BaseType.allOutlines ts = BaseType.allOutlines us := by
  have hrow {vs : List BaseType} (hne : vs ≠ []) (h : BaseType.AllRegular vs) :
      BaseType.formatUnion vs = .ok (Outline.rowText (BaseType.allOutlines vs)) := by
    rw [BaseType.formatUnion, BaseType.formatAll_eq vs h, ok_bind, BaseType.joinWith_outlines hne h]
    rfl
  have hxs := BaseType.allOutlines_wellFormed ts hts ht
  have hys := BaseType.allOutlines_wellFormed us hus hu
  rw [hrow hts ht, hrow hus hu]
  exact ⟨fun h ↦ Outline.rowText_inj hxs.1 hys.1 hxs.2 hys.2 (Except.ok.inj h),
    fun h ↦ by rw [h]⟩

/-- All regular types are printed. Two of them have the same text exactly if they show the same
alternatives, and then they are the same, descriptions apart, unless in one of them a function
without an end stands before other types of a union. -/
theorem BaseType.format_unambiguous {t u : BaseType} (ht : t.Regular) (hu : u.Regular) :
    (∃ text, t.format = .ok text) ∧
    (t.format = u.format ↔ t.outlines = u.outlines) ∧
    (t.Settled → u.Settled → t.format = u.format → t.withoutDescs = u.withoutDescs) := by
  have hxs := BaseType.outlines_wellFormed t ht
  have hys := BaseType.outlines_wellFormed u hu
  have hiff : t.format = u.format ↔ t.outlines = u.outlines := by
    rw [BaseType.format_eq t ht, BaseType.format_eq u hu]
    exact ⟨fun h ↦ Outline.rowText_inj hxs.1 hys.1 hxs.2 hys.2 (Except.ok.inj h),
      fun h ↦ by rw [h]⟩
  exact ⟨⟨_, BaseType.format_eq t ht⟩, hiff,
    fun hts hus h ↦ BaseType.outlines_inj t ht hu hts hus (hiff.mp h)⟩

namespace Printed

/-- A function that takes a callback and gives any number of lists or of functions. -/
def callback (desc : Text) : BaseType :=
  let inner : Signature :=
    .mk [.plain (.text "n") (.text desc) [.simple .number, .simple .nil]]
      [.plain (.text []) (.text []) [.simple .noValue]]
  .function (.mk [.plain (.text "f") (.text desc) [.table [.simple .any], .function inner]]
    [.mk (.text []) (.text desc) [.table [.simple .uuid, .function inner], .simple .string] true false])

/-- The result of a function, beside another type. -/
def beside : BaseType :=
  .table [.function (.mk [] [.plain (.text []) (.text []) [.simple .nil]]), .simple .number]

/-- A function with one of two results. -/
def within : BaseType :=
  .table [.function (.mk [] [.plain (.text []) (.text []) [.simple .nil, .simple .number]])]

theorem regular_callback (desc : Text) : (callback desc).Regular := by
  have hn : Text.IsWord "n" := by decide
  have hf : Text.IsWord "f" := by decide
  simp [callback, Variable.plain, BaseType.Regular, BaseType.AllRegular, Signature.Regular,
    Variable.AllArguments, Variable.IsArgument, Variable.IsResult, hn, hf]

theorem settled_callback (desc : Text) : (callback desc).Settled := by
  simp [callback, Variable.plain, BaseType.Settled, BaseType.UnionSettled, Signature.Settled,
    Variable.AllSettled, Variable.Settled, BaseType.isOpen]

end Printed

theorem BaseType.format_unambiguous_callback :
    (Printed.callback "a").Regular ∧ (Printed.callback "b").Regular ∧
      (Printed.callback "a").withoutDescs = (Printed.callback "b").withoutDescs := by
  refine ⟨Printed.regular_callback _, Printed.regular_callback _, ?_⟩
  have h := BaseType.format_unambiguous (Printed.regular_callback "a") (Printed.regular_callback "b")
  exact h.2.2 (Printed.settled_callback _) (Printed.settled_callback _) (h.2.1.mpr rfl)

/-- Two types that differ have the same text: the one function gives nothing or a number, the other
gives nothing and stands beside a number. -/
theorem BaseType.format_ambiguous :
    Printed.beside.Regular ∧ Printed.within.Regular ∧
      Printed.beside.format = Printed.within.format ∧
      Printed.beside.withoutDescs ≠ Printed.within.withoutDescs := by
  refine ⟨?_, ?_, ?_, ?_⟩
  · simp [Printed.beside, Variable.plain, BaseType.Regular, BaseType.AllRegular, Signature.Regular,
      Variable.AllArguments, Variable.IsResult]
  · simp [Printed.within, Variable.plain, BaseType.Regular, BaseType.AllRegular, Signature.Regular,
      Variable.AllArguments, Variable.IsResult]
  · rfl
  · simp [Printed.beside, Printed.within, BaseType.withoutDescs, BaseType.allWithoutDescs]

end ScriptDefs
