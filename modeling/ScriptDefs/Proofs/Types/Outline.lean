import Mathlib.Data.List.Basic
import ScriptDefs.Proofs.Types.Reading
import ScriptDefs.Types.Format

/-!
# Outlines of printed types

What the text of a union of types shows is a row of alternatives with bars between them. An alternative
that begins with a function reaches as far as the first alternative of the results; whether later
alternatives are results of the function or stand beside it is not shown. A row of alternatives is
known from its text, whatever text follows: after an alternative comes an end, a bar, a comma or a
closing bracket, and none of these continues a name or an arrow.
-/

namespace ScriptDefs

/-! ## Words -/

/-- A letter, a digit, an underscore, or anything that is not ASCII. -/
def CodePoint.isWordPart : CodePoint → Bool
  | .scalar c => c.isAlphanum || c = '_' || 128 ≤ c.toNat
  | .surrogate _ => true

namespace Text

/-- A text without spaces and marks; all identifiers are words. -/
def IsWord (t : Text) : Prop := t ≠ [] ∧ ∀ c ∈ t, c.isWordPart = true

instance (t : Text) : Decidable t.IsWord := inferInstanceAs (Decidable (_ ∧ _))

/-- A text is empty or begins with one of some marks. -/
def StartsIn (marks : List Char) (t : Text) : Prop := ∀ c ∈ t.head?, ∃ m ∈ marks, c = .scalar m

/-- What comes after a type. -/
def afterType : List Char := [')', '\x7d', ',', '|']

/-- What comes after a union of types. -/
def afterUnion : List Char := [')', '\x7d', ',']

variable {t u r r' : Text} {marks : List Char} {m : Char}

theorem startsIn_nil : StartsIn marks [] := fun _ h ↦ nomatch h

@[simp] theorem startsIn_cons : StartsIn marks (.scalar m :: t) ↔ m ∈ marks := by
  simp [StartsIn]

theorem StartsIn.mono {more : List Char} (h : StartsIn marks t) (hsub : marks ⊆ more) :
    StartsIn more t := fun c hc ↦ (h c hc).imp fun _ hm ↦ ⟨hsub hm.1, hm.2⟩

/-- No mark that comes after a type is part of a word. -/
theorem StartsIn.not_isWordPart (h : StartsIn afterType t) {c : CodePoint} (hc : c ∈ t.head?) :
    c.isWordPart = false := by
  obtain ⟨m, hm, rfl⟩ := h c hc
  simp only [Text.afterType, List.mem_cons, List.not_mem_nil, or_false] at hm
  rcases hm with rfl | rfl | rfl | rfl <;> rfl

theorem StartsIn.afterType (h : StartsIn afterUnion t) : StartsIn afterType t :=
  h.mono (by decide)

/-- A word is known from a text that begins with it, up to what is no part of a word. -/
theorem word_append_inj (ht : ∀ c ∈ t, c.isWordPart = true) (hu : ∀ c ∈ u, c.isWordPart = true)
    (hr : ∀ c ∈ r.head?, c.isWordPart = false) (hr' : ∀ c ∈ r'.head?, c.isWordPart = false)
    (h : t ++ r = u ++ r') : t = u ∧ r = r' := by
  induction t generalizing u with
  | nil =>
    cases u with
    | nil => exact ⟨rfl, h⟩
    | cons c u =>
      have hc := hr c (by simp [show r = c :: (u ++ r') from h])
      rw [hu c List.mem_cons_self] at hc
      cases hc
  | cons c t ih =>
    cases u with
    | nil =>
      have hc := hr' c (by simp [show r' = c :: (t ++ r) from h.symm])
      rw [ht c List.mem_cons_self] at hc
      cases hc
    | cons d u =>
      obtain ⟨rfl, htail⟩ := List.cons.inj h
      obtain ⟨rfl, hrest⟩ := ih (fun c hc ↦ ht c (List.mem_cons_of_mem _ hc))
        (fun c hc ↦ hu c (List.mem_cons_of_mem _ hc)) htail
      exact ⟨rfl, hrest⟩

/-- A mark does not begin a text that begins with a word. -/
theorem IsWord.append_ne_cons (h : t.IsWord) (hm : (CodePoint.scalar m).isWordPart = false) :
    t ++ r ≠ .scalar m :: u := by
  intro e
  cases t with
  | nil => exact h.1 rfl
  | cons c t =>
    have hc := h.2 c List.mem_cons_self
    rw [(List.cons.inj e).1, hm] at hc
    cases hc

end Text

namespace SimpleType

/-- The name of a simple type is a word, but for the two that are written in brackets. -/
theorem isWord_name {s : SimpleType} (h : s ≠ .emptyTable) (h' : s ≠ .noValue) :
    s.name.IsWord := by
  cases s <;> first | contradiction | decide

theorem name_inj {s t : SimpleType} (h : s.name = t.name) : s = t :=
  Option.some.inj ((ofName?_name s).symm.trans (h ▸ ofName?_name t))

end SimpleType

/-! ## Alternatives -/

mutual

/-- One alternative. A function shows its arguments and its first result, after dots if there is any
number of results; several results of which there is any number are put in parentheses. -/
inductive Outline where
  | simple (s : SimpleType)
  | table (elements : List Outline)
  | function (args : List Parameter) (dotted : Bool) (result : Outline)
  | group (args : List Parameter) (results : List Outline)

/-- An argument with its alternatives. -/
inductive Parameter where
  | mk (name : Text) (types : List Outline)

end

/-- Arguments up to what stands before the results. -/
def Parameter.enclosed (args : List Text) : Text :=
  .scalar '(' :: Text.joinWith ", " args ++ (.scalar ')' :: arrow)

/-- The mark of any number of values. -/
def Outline.dots (dotted : Bool) : Text := if dotted then "..." else []

mutual

/-- The text of an alternative. -/
def Outline.text : Outline → Text
  | .simple s => s.name
  | .table elements => .scalar '\x7b' :: Text.joinWith "|" (Outline.texts elements) ++ [.scalar '\x7d']
  | .function args dotted result =>
    Parameter.enclosed (Parameter.texts args) ++ (Outline.dots dotted ++ result.text)
  | .group args results =>
    Parameter.enclosed (Parameter.texts args) ++
      (Outline.dots true ++ .scalar '(' :: Text.joinWith "|" (Outline.texts results) ++ [.scalar ')'])

/-- The texts of alternatives. -/
def Outline.texts : List Outline → List Text
  | [] => []
  | o :: rest => o.text :: Outline.texts rest

/-- The text of an argument. -/
def Parameter.text : Parameter → Text
  | .mk name types => name ++ (.scalar ':' :: .scalar ' ' :: Text.joinWith "|" (Outline.texts types))

/-- The texts of arguments. -/
def Parameter.texts : List Parameter → List Text
  | [] => []
  | p :: rest => p.text :: Parameter.texts rest

end

/-- The text of a row of alternatives. -/
def Outline.rowText (row : List Outline) : Text := Text.joinWith "|" (Outline.texts row)

mutual

/-- Names are words, no row is empty, and simple types are such as are printed. -/
def Outline.WellFormed : Outline → Prop
  | .simple s => s ≠ .self ∧ s ≠ .emptyTable
  | .table elements => elements ≠ [] ∧ Outline.AllWellFormed elements
  | .function args _ result => Parameter.AllWellFormed args ∧ result.WellFormed
  | .group args results =>
    Parameter.AllWellFormed args ∧ results ≠ [] ∧ Outline.AllWellFormed results

/-- All alternatives are well-formed. -/
def Outline.AllWellFormed : List Outline → Prop
  | [] => True
  | o :: rest => o.WellFormed ∧ Outline.AllWellFormed rest

/-- The name is a word, and there is an alternative. -/
def Parameter.WellFormed : Parameter → Prop
  | .mk name types => name.IsWord ∧ types ≠ [] ∧ Outline.AllWellFormed types

/-- All arguments are well-formed. -/
def Parameter.AllWellFormed : List Parameter → Prop
  | [] => True
  | p :: rest => p.WellFormed ∧ Parameter.AllWellFormed rest

end

/-! ## What texts begin with -/

namespace Outline

variable {r r' u : Text}

/-- The rest of a row after its first alternative. -/
def rowRest : List Outline → Text
  | [] => []
  | o :: rest => .scalar '|' :: rowText (o :: rest)

theorem rowText_cons (o : Outline) (rest : List Outline) :
    rowText (o :: rest) = o.text ++ rowRest rest := by
  cases rest with
  | nil => exact (Text.joinWith_singleton _ _).trans (List.append_nil _).symm
  | cons _ _ => rfl

theorem startsIn_rowRest (rest : List Outline) (hr : r.StartsIn Text.afterUnion) :
    (rowRest rest ++ r).StartsIn Text.afterType := by
  cases rest with
  | nil => exact hr.afterType
  | cons _ _ => exact Text.startsIn_cons.mpr (by decide)

theorem not_isWordPart_of_mem {m : Char} (h : m ∈ ['(', '\x7b']) :
    (CodePoint.scalar m).isWordPart = false := by
  simp only [List.mem_cons, List.not_mem_nil, or_false] at h
  rcases h with rfl | rfl <;> rfl

/-- An alternative begins with a word, or with an opening bracket. -/
theorem text_cases {o : Outline} (h : o.WellFormed) :
    (∃ s, o = .simple s ∧ s.name.IsWord) ∨
      ∃ m ∈ ['(', '\x7b'], ∃ t, o.text = .scalar m :: t := by
  cases o with
  | simple s =>
    by_cases hs : s = .noValue
    · exact .inr ⟨'(', by decide, _, by rw [hs]; rfl⟩
    · exact .inl ⟨s, rfl, SimpleType.isWord_name h.2 hs⟩
  | table elements => exact .inr ⟨'\x7b', by decide, _, by rw [text]; rfl⟩
  | function args dotted result => exact .inr ⟨'(', by decide, _, by rw [text]; rfl⟩
  | group args results => exact .inr ⟨'(', by decide, _, by rw [text]; rfl⟩

/-- No other mark begins an alternative. -/
theorem text_append_ne_cons {o : Outline} (h : o.WellFormed) {m : Char}
    (hm : m ∉ ['(', '\x7b']) (hword : (CodePoint.scalar m).isWordPart = false) :
    o.text ++ r ≠ .scalar m :: u := by
  intro e
  rcases text_cases h with ⟨s, rfl, hs⟩ | ⟨m', hm', t, ht⟩
  · exact hs.append_ne_cons hword e
  · rw [ht] at e
    injection e with e _
    injection e with e
    exact hm (e ▸ hm')

/-- A row does not begin as an argument does, with a name and a colon. -/
theorem name_ne_rowText {name : Text} (hname : name.IsWord) {o : Outline} (h : o.WellFormed)
    (rest : List Outline) (hr : r.StartsIn Text.afterUnion) :
    name ++ .scalar ':' :: u ≠ rowText (o :: rest) ++ r := by
  intro e
  rw [rowText_cons, List.append_assoc] at e
  rcases text_cases h with ⟨s, rfl, hs⟩ | ⟨m, hm, t, ht⟩
  · have hrest := startsIn_rowRest rest hr
    obtain ⟨-, e⟩ := Text.word_append_inj hname.2 hs.2 (by simp; decide)
      (fun c hc ↦ hrest.not_isWordPart hc) e
    rw [← e, Text.startsIn_cons] at hrest
    exact absurd hrest (by decide)
  · rw [ht] at e
    exact hname.append_ne_cons (not_isWordPart_of_mem hm) e

end Outline

namespace Parameter

variable {r u : Text}

/-- The text of arguments. -/
def listText (args : List Parameter) : Text := Text.joinWith ", " (texts args)

/-- The rest of the arguments after the first. -/
def listRest : List Parameter → Text
  | [] => []
  | p :: rest => .scalar ',' :: .scalar ' ' :: listText (p :: rest)

theorem listText_cons (p : Parameter) (rest : List Parameter) :
    listText (p :: rest) = p.text ++ listRest rest := by
  cases rest with
  | nil => exact (Text.joinWith_singleton _ _).trans (List.append_nil _).symm
  | cons _ _ => rfl

theorem startsIn_listRest (rest : List Parameter) :
    (listRest rest ++ .scalar ')' :: r).StartsIn Text.afterUnion := by
  cases rest <;> exact Text.startsIn_cons.mpr (by decide)

/-- Arguments do not begin as a row does. -/
theorem listText_ne_rowText {args : List Parameter} (hargs : AllWellFormed args)
    {o : Outline} (h : o.WellFormed) (rest : List Outline) (hr : r.StartsIn Text.afterUnion) :
    listText args ++ .scalar ')' :: u ≠ Outline.rowText (o :: rest) ++ r := by
  intro e
  cases args with
  | nil =>
    rw [Outline.rowText_cons, List.append_assoc] at e
    exact Outline.text_append_ne_cons h (by decide) (by decide) e.symm
  | cons p args =>
    obtain ⟨name, types⟩ := p
    rw [listText_cons, Parameter.text, List.append_assoc, List.append_assoc] at e
    exact Outline.name_ne_rowText hargs.1.1 h rest hr e

/-- The type without values does not begin a function. -/
theorem noValue_ne_call {args : List Parameter} (hargs : AllWellFormed args)
    (hr : r.StartsIn Text.afterType) :
    SimpleType.noValue.name ++ r ≠
      .scalar '(' :: (listText args ++ .scalar ')' :: (arrow ++ u)) := by
  intro e
  have e : .scalar ')' :: r = listText args ++ .scalar ')' :: (arrow ++ u) := (List.cons.inj e).2
  cases args with
  | nil =>
    have hspace : Text.StartsIn Text.afterType (.scalar ' ' :: (("-> " : Text) ++ u)) := by
      rw [(List.cons.inj e).2] at hr
      exact hr
    exact absurd (Text.startsIn_cons.mp hspace) (by decide)
  | cons p args =>
    obtain ⟨name, types⟩ := p
    rw [listText_cons, Parameter.text, List.append_assoc, List.append_assoc] at e
    exact hargs.1.1.append_ne_cons (by decide) e.symm

end Parameter

/-! ## Reading a text in one way -/

namespace Outline

theorem table_append (elements : List Outline) (r : Text) :
    (table elements).text ++ r = .scalar '\x7b' :: (rowText elements ++ .scalar '\x7d' :: r) := by
  simp [text, rowText]

theorem function_append (args : List Parameter) (dotted : Bool) (result : Outline) (r : Text) :
    (function args dotted result).text ++ r =
      .scalar '(' :: (Parameter.listText args ++
        .scalar ')' :: (arrow ++ (dots dotted ++ (result.text ++ r)))) := by
  simp [text, Parameter.enclosed, Parameter.listText]

theorem group_append (args : List Parameter) (results : List Outline) (r : Text) :
    (group args results).text ++ r =
      .scalar '(' :: (Parameter.listText args ++
        .scalar ')' :: (arrow ++ (dots true ++ .scalar '(' :: (rowText results ++ .scalar ')' :: r)))) := by
  simp [text, Parameter.enclosed, Parameter.listText, rowText]

end Outline

section Mismatches

variable {s : SimpleType} {args : List Parameter} {x o : Outline} {rest : List Outline}
  {r r' u : Text}

theorem Outline.simple_append_inj {t : SimpleType} (hs : (Outline.simple s).WellFormed)
    (ht : (Outline.simple t).WellFormed) (hr : r.StartsIn Text.afterType)
    (hr' : r'.StartsIn Text.afterType) (h : s.name ++ r = t.name ++ r') : s = t ∧ r = r' := by
  by_cases hs' : s = .noValue <;> by_cases ht' : t = .noValue
  · rw [hs', ht'] at h
    exact ⟨hs'.trans ht'.symm, List.append_cancel_left h⟩
  · rw [hs'] at h
    exact ((SimpleType.isWord_name ht.2 ht').append_ne_cons (by decide) h.symm).elim
  · rw [ht'] at h
    exact ((SimpleType.isWord_name hs.2 hs').append_ne_cons (by decide) h).elim
  · obtain ⟨hname, hrest⟩ := Text.word_append_inj (SimpleType.isWord_name hs.2 hs').2
      (SimpleType.isWord_name ht.2 ht').2 (fun c hc ↦ hr.not_isWordPart hc)
      (fun c hc ↦ hr'.not_isWordPart hc) h
    exact ⟨SimpleType.name_inj hname, hrest⟩

/-- A simple type is no table. -/
theorem Outline.simple_ne_brace (hs : (Outline.simple s).WellFormed) :
    s.name ++ r ≠ .scalar '\x7b' :: u := by
  by_cases hno : s = .noValue
  · rw [hno]
    exact fun e ↦ absurd (List.cons.inj e).1 (by decide)
  · exact (SimpleType.isWord_name hs.2 hno).append_ne_cons (by decide)

/-- A simple type is no function. -/
theorem Outline.simple_ne_call (hs : (Outline.simple s).WellFormed)
    (hargs : Parameter.AllWellFormed args) (hr : r.StartsIn Text.afterType) :
    s.name ++ r ≠ .scalar '(' :: (Parameter.listText args ++ .scalar ')' :: (arrow ++ u)) := by
  by_cases hno : s = .noValue
  · rw [hno]
    exact Parameter.noValue_ne_call hargs hr
  · exact (SimpleType.isWord_name hs.2 hno).append_ne_cons (by decide)

/-- A single result after dots is no row in parentheses. -/
theorem Outline.text_ne_row (hx : x.WellFormed) (ho : Outline.AllWellFormed (o :: rest))
    (hr' : r'.StartsIn Text.afterUnion) :
    x.text ++ r ≠ .scalar '(' :: (Outline.rowText (o :: rest) ++ r') := by
  intro e
  cases x with
  | simple s =>
    by_cases hno : s = .noValue
    · rw [Outline.text, hno, Outline.rowText_cons, List.append_assoc] at e
      exact Outline.text_append_ne_cons ho.1 (by decide) (by decide) (List.cons.inj e).2.symm
    · exact (SimpleType.isWord_name hx.2 hno).append_ne_cons (by decide) e
  | table elements => exact absurd (List.cons.inj e).1 (by decide)
  | function args dotted result =>
    rw [Outline.function_append] at e
    exact Parameter.listText_ne_rowText hx.1 ho.1 rest hr' (List.cons.inj e).2
  | group args results =>
    rw [Outline.group_append] at e
    exact Parameter.listText_ne_rowText hx.1 ho.1 rest hr' (List.cons.inj e).2

/-- What follows the arrow tells the two kinds of functions apart. -/
theorem Outline.dots_ne_row {dotted : Bool} (hx : x.WellFormed) {results : List Outline}
    (hne : results ≠ []) (hresults : Outline.AllWellFormed results) :
    Outline.dots dotted ++ (x.text ++ r) ≠
      Outline.dots true ++ .scalar '(' :: (Outline.rowText results ++ .scalar ')' :: r') := by
  intro e
  cases dotted with
  | false => exact Outline.text_append_ne_cons hx (by decide) (by decide) e
  | true =>
    obtain ⟨o, rest, rfl⟩ := List.exists_cons_of_ne_nil hne
    exact Outline.text_ne_row hx hresults (Text.startsIn_cons.mpr (by decide))
      (List.append_cancel_left e)

/-- Dots belong to the function and not to its result. -/
theorem Outline.dots_inj {dotted dotted' : Bool} (hx : x.WellFormed) (ho : o.WellFormed)
    (h : Outline.dots dotted ++ (x.text ++ r) = Outline.dots dotted' ++ (o.text ++ r')) :
    dotted = dotted' ∧ x.text ++ r = o.text ++ r' := by
  match dotted, dotted', h with
  | false, false, h => exact ⟨rfl, h⟩
  | true, true, h => exact ⟨rfl, List.append_cancel_left h⟩
  | false, true, h => exact (Outline.text_append_ne_cons hx (by decide) (by decide) h).elim
  | true, false, h => exact (Outline.text_append_ne_cons ho (by decide) (by decide) h.symm).elim

end Mismatches

-- Along the alternatives of the first of two texts; the one that the second text begins with is of
-- the same kind, or else the texts differ in an early mark.
mutual

/-- An alternative is known from a text that begins with it. -/
theorem Outline.text_append_inj : (x : Outline) → ∀ {y : Outline} {r r' : Text}, x.WellFormed →
    y.WellFormed → r.StartsIn Text.afterType → r'.StartsIn Text.afterType →
    x.text ++ r = y.text ++ r' → x = y ∧ r = r'
  | .simple s, .simple t, r, r', hx, hy, hr, hr', h => by
    obtain ⟨rfl, hrest⟩ := Outline.simple_append_inj hx hy hr hr' h
    exact ⟨rfl, hrest⟩
  | .simple s, .table _, _, _, hx, _, _, _, h => (Outline.simple_ne_brace hx h).elim
  | .simple s, .function args dotted result, r, r', hx, hy, hr, hr', h =>
    (Outline.simple_ne_call hx hy.1 hr (h.trans (Outline.function_append ..))).elim
  | .simple s, .group args results, r, r', hx, hy, hr, hr', h =>
    (Outline.simple_ne_call hx hy.1 hr (h.trans (Outline.group_append ..))).elim
  | .table elements, .simple t, r, r', hx, hy, hr, hr', h =>
    (Outline.simple_ne_brace hy h.symm).elim
  | .table elements, .table elements', r, r', hx, hy, hr, hr', h => by
    rw [Outline.table_append, Outline.table_append] at h
    obtain ⟨rfl, hrest⟩ := Outline.rowText_append_inj elements hx.1 hy.1 hx.2 hy.2
      (Text.startsIn_cons.mpr (by decide)) (Text.startsIn_cons.mpr (by decide)) (List.cons.inj h).2
    exact ⟨rfl, (List.cons.inj hrest).2⟩
  | .table elements, .function args dotted result, r, r', hx, hy, hr, hr', h =>
    absurd (List.cons.inj h).1 (by decide)
  | .table elements, .group args results, r, r', hx, hy, hr, hr', h =>
    absurd (List.cons.inj h).1 (by decide)
  | .function args dotted result, .simple t, r, r', hx, hy, hr, hr', h =>
    (Outline.simple_ne_call hy hx.1 hr' (h.symm.trans (Outline.function_append ..))).elim
  | .function args dotted result, .table elements, r, r', hx, hy, hr, hr', h =>
    absurd (List.cons.inj h).1 (by decide)
  | .function args dotted result, .function args' dotted' result', r, r', hx, hy, hr, hr', h => by
    rw [Outline.function_append, Outline.function_append] at h
    obtain ⟨rfl, hafter⟩ := Parameter.listText_append_inj args hx.1 hy.1 (List.cons.inj h).2
    obtain ⟨rfl, hresult⟩ := Outline.dots_inj hx.2 hy.2 (List.append_cancel_left hafter)
    obtain ⟨rfl, hrest⟩ := Outline.text_append_inj result hx.2 hy.2 hr hr' hresult
    exact ⟨rfl, hrest⟩
  | .function args dotted result, .group args' results, r, r', hx, hy, hr, hr', h => by
    rw [Outline.function_append, Outline.group_append] at h
    obtain ⟨rfl, hafter⟩ := Parameter.listText_append_inj args hx.1 hy.1 (List.cons.inj h).2
    exact (Outline.dots_ne_row hx.2 hy.2.1 hy.2.2 (List.append_cancel_left hafter)).elim
  | .group args results, .simple t, r, r', hx, hy, hr, hr', h =>
    (Outline.simple_ne_call hy hx.1 hr' (h.symm.trans (Outline.group_append ..))).elim
  | .group args results, .table elements, r, r', hx, hy, hr, hr', h =>
    absurd (List.cons.inj h).1 (by decide)
  | .group args results, .function args' dotted result, r, r', hx, hy, hr, hr', h => by
    rw [Outline.function_append, Outline.group_append] at h
    obtain ⟨rfl, hafter⟩ := Parameter.listText_append_inj args hx.1 hy.1 (List.cons.inj h).2
    exact (Outline.dots_ne_row hy.2 hx.2.1 hx.2.2 (List.append_cancel_left hafter.symm)).elim
  | .group args results, .group args' results', r, r', hx, hy, hr, hr', h => by
    rw [Outline.group_append, Outline.group_append] at h
    obtain ⟨rfl, hafter⟩ := Parameter.listText_append_inj args hx.1 hy.1 (List.cons.inj h).2
    have hrow := List.append_cancel_left (List.append_cancel_left hafter)
    obtain ⟨rfl, hrest⟩ := Outline.rowText_append_inj results hx.2.1 hy.2.1 hx.2.2 hy.2.2
      (Text.startsIn_cons.mpr (by decide)) (Text.startsIn_cons.mpr (by decide))
      (List.cons.inj hrow).2
    exact ⟨rfl, (List.cons.inj hrest).2⟩
termination_by structural x => x

/-- A row is known from a text that begins with it. -/
theorem Outline.rowText_append_inj : (xs : List Outline) → ∀ {ys : List Outline} {r r' : Text},
    xs ≠ [] → ys ≠ [] → Outline.AllWellFormed xs → Outline.AllWellFormed ys →
    r.StartsIn Text.afterUnion → r'.StartsIn Text.afterUnion →
    Outline.rowText xs ++ r = Outline.rowText ys ++ r' → xs = ys ∧ r = r'
  | [], _, _, _, hne, _, _, _, _, _, _ => (hne rfl).elim
  | _, [], _, _, _, hne, _, _, _, _, _ => (hne rfl).elim
  | x :: xs, y :: ys, r, r', _, _, hx, hy, hr, hr', h => by
    rw [Outline.rowText_cons, Outline.rowText_cons, List.append_assoc, List.append_assoc] at h
    obtain ⟨rfl, hafter⟩ := Outline.text_append_inj x hx.1 hy.1 (Outline.startsIn_rowRest xs hr)
      (Outline.startsIn_rowRest ys hr') h
    match xs, ys, hafter with
    | [], [], h => exact ⟨rfl, h⟩
    | [], _ :: _, h =>
      rw [show r = _ from h] at hr
      exact absurd (Text.startsIn_cons.mp hr) (by decide)
    | _ :: _, [], h =>
      rw [show r' = _ from h.symm] at hr'
      exact absurd (Text.startsIn_cons.mp hr') (by decide)
    | x' :: xs, y' :: ys, h =>
      obtain ⟨heq, hrest⟩ := Outline.rowText_append_inj (x' :: xs) (by simp) (by simp) hx.2 hy.2
        hr hr' (List.cons.inj h).2
      exact ⟨congrArg _ heq, hrest⟩
termination_by structural xs => xs

/-- An argument is known from a text that begins with it. -/
theorem Parameter.text_append_inj : (p : Parameter) → ∀ {q : Parameter} {r r' : Text},
    p.WellFormed → q.WellFormed → r.StartsIn Text.afterUnion → r'.StartsIn Text.afterUnion →
    p.text ++ r = q.text ++ r' → p = q ∧ r = r'
  | .mk name types, .mk name' types', r, r', hp, hq, hr, hr', h => by
    rw [Parameter.text, Parameter.text, List.append_assoc, List.append_assoc] at h
    obtain ⟨rfl, hafter⟩ := Text.word_append_inj hp.1.2 hq.1.2 (by simp; decide) (by simp; decide) h
    obtain ⟨rfl, hrest⟩ := Outline.rowText_append_inj types hp.2.1 hq.2.1 hp.2.2 hq.2.2 hr hr'
      (List.cons.inj (List.cons.inj hafter).2).2
    exact ⟨rfl, hrest⟩
termination_by structural p => p

/-- Arguments are known from a text that begins with them and a closing parenthesis. -/
theorem Parameter.listText_append_inj : (ps : List Parameter) → ∀ {qs : List Parameter}
    {r r' : Text}, Parameter.AllWellFormed ps → Parameter.AllWellFormed qs →
    Parameter.listText ps ++ .scalar ')' :: r = Parameter.listText qs ++ .scalar ')' :: r' →
    ps = qs ∧ r = r'
  | [], [], _, _, _, _, h => ⟨rfl, (List.cons.inj h).2⟩
  | [], .mk name types :: qs, _, _, _, hq, h => by
    rw [Parameter.listText_cons, Parameter.text, List.append_assoc, List.append_assoc] at h
    exact (hq.1.1.append_ne_cons (by decide) h.symm).elim
  | .mk name types :: ps, [], _, _, hp, _, h => by
    rw [Parameter.listText_cons, Parameter.text, List.append_assoc, List.append_assoc] at h
    exact (hp.1.1.append_ne_cons (by decide) h).elim
  | p :: ps, q :: qs, r, r', hp, hq, h => by
    rw [Parameter.listText_cons, Parameter.listText_cons, List.append_assoc, List.append_assoc] at h
    obtain ⟨rfl, hafter⟩ := Parameter.text_append_inj p hp.1 hq.1 (Parameter.startsIn_listRest ps)
      (Parameter.startsIn_listRest qs) h
    match ps, qs, hafter with
    | [], [], h => exact ⟨rfl, (List.cons.inj h).2⟩
    | [], _ :: _, h => exact absurd (List.cons.inj h).1 (by decide)
    | _ :: _, [], h => exact absurd (List.cons.inj h).1 (by decide)
    | p' :: ps, q' :: qs, h =>
      obtain ⟨heq, hrest⟩ := Parameter.listText_append_inj (p' :: ps) hp.2 hq.2
        (List.cons.inj (List.cons.inj h).2).2
      exact ⟨congrArg _ heq, hrest⟩
termination_by structural ps => ps

end

/-- A row is known from its text. -/
theorem Outline.rowText_inj {xs ys : List Outline} (hxs : xs ≠ []) (hys : ys ≠ [])
    (hx : Outline.AllWellFormed xs) (hy : Outline.AllWellFormed ys)
    (h : Outline.rowText xs = Outline.rowText ys) : xs = ys :=
  (Outline.rowText_append_inj xs hxs hys hx hy Text.startsIn_nil Text.startsIn_nil
    (congrArg (· ++ []) h)).1

end ScriptDefs
