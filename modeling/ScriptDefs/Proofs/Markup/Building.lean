import ScriptDefs.Proofs.Data.Fields
import ScriptDefs.Proofs.Markup.Nesting

/-!
# Building described trees

A builder holds exactly what its events have described: an open element for every frame of their
nesting, and the tree of the last closed element with the root tag. So it builds every tree from a
description of it, and it can be finished exactly after balanced events that close such an element.
-/

namespace ScriptDefs.Markup

variable {ε : Type}

/-- What a text becomes; the empty text if it cannot be normalized. -/
def Builder.Settings.normalized (s : Builder.Settings ε) (content : Text) : Text :=
  match s.normalize content with
  | .ok t => t
  | .error _ => []

/-- An event is a start of an element. -/
def Event.isOpening : Event → Bool
  | .opening _ => true
  | _ => false

/-- An event is an end of an element. -/
def Event.isClosing : Event → Bool
  | .closing => true
  | _ => false

namespace Nesting

/-- The builder after the events of a nesting, given the last closed root. -/
def builder (s : Builder.Settings ε) (root : Option Tree) (n : Nesting) : Builder :=
  ⟨n.frames.map fun f ↦ Part.openTree s.normalized f.tag f.parts, root⟩

/-- The last closed root after one more event. -/
def rootAfter (s : Builder.Settings ε) (root : Option Tree) (n : Nesting) : Event → Option Tree
  | .closing =>
    match n.frames with
    | [] => root
    | f :: _ =>
      if f.tag = s.rootTag then some (Part.tree s.normalized f.tag f.parts) else root
  | _ => root

variable {s : Builder.Settings ε}

theorem rootAfter_closing {n : Nesting} {f : Frame} {rest : List Frame}
    (h : n.frames = f :: rest) (root : Option Tree) :
    n.rootAfter s root .closing =
      if f.tag = s.rootTag then some (Part.tree s.normalized f.tag f.parts) else root := by
  rw [rootAfter, h]

/-- A text that is received inside of an element can be normalized. -/
def Readable (s : Builder.Settings ε) (n : Nesting) (e : Event) : Prop :=
  ∀ content, e = .text content → n.frames ≠ [] → ∃ t, s.normalize content = .ok t

/-- A builder follows the nesting of its events. -/
theorem step_builder {n n' : Nesting} {e : Event} (h : n.step e = some n') (hread : n.Readable s e)
    (root : Option Tree) :
    (n.builder s root).step s e = .ok (n'.builder s (n.rootAfter s root e)) := by
  obtain ⟨outer, frames⟩ := n
  cases e with
  | opening tag =>
    cases h
    rw [Builder.step, Builder.opening, Part.new_eq_openTree s.normalized]
    rfl
  | text content =>
    cases h
    cases frames with
    | nil => rfl
    | cons f rest =>
      obtain ⟨t, ht⟩ := hread content rfl (List.cons_ne_nil f rest)
      have hnorm : s.normalized content = t := by rw [Builder.Settings.normalized, ht]
      simp only [Builder.step, Builder.text, builder, List.map_cons, ht, add, rootAfter]
      rw [← hnorm, Part.withText_openTree]
  | closing =>
    cases frames with
    | nil => cases h
    | cons f rest =>
      cases h
      cases rest with
      | nil => rfl
      | cons parent outer =>
        simp only [Builder.step, Builder.closing, builder, List.map_cons, Part.close_openTree,
          Part.append_openTree, add, rootAfter]
        rfl

/-- A builder refuses a close too many, and a text that cannot be normalized. -/
theorem step_of_builder_ok {n : Nesting} {e : Event} {root : Option Tree} {b : Builder}
    (h : (n.builder s root).step s e = .ok b) :
    ∃ n', n.step e = some n' ∧ b = n'.builder s (n.rootAfter s root e) := by
  have hread : n.Readable s e := by
    rintro content rfl hframes
    cases hnorm : s.normalize content with
    | ok t => exact ⟨t, rfl⟩
    | error err =>
      obtain ⟨f, rest, hcons⟩ := List.exists_cons_of_ne_nil hframes
      simp [Builder.step, Builder.text, builder, hcons, hnorm] at h
  cases hstep : n.step e with
  | some n' =>
    rw [step_builder hstep hread] at h
    exact ⟨n', rfl, (Except.ok.inj h).symm⟩
  | none =>
    cases e with
    | closing =>
      cases hframes : n.frames with
      | nil => simp [Builder.step, Builder.closing, builder, hframes] at h
      | cons f rest => simp [step, hframes] at hstep
    | opening tag => cases hstep
    | text content => cases hstep

/-- As many elements are open as were opened and not closed. -/
theorem count_of_run {es : List Event} {n : Nesting} (h : run {} es = some n) :
    es.countP Event.isOpening = es.countP Event.isClosing + n.frames.length := by
  induction es using List.reverseRecOn generalizing n with
  | nil =>
    cases h
    rfl
  | append_singleton es e ih =>
    rw [run_concat, Option.bind_eq_some_iff] at h
    obtain ⟨m, hm, hstep⟩ := h
    have ih := ih hm
    obtain ⟨outer, frames⟩ := m
    rw [List.countP_append, List.countP_append, List.countP_singleton, List.countP_singleton]
    cases e with
    | opening tag =>
      cases hstep
      simp only [Event.isOpening, Event.isClosing, List.length_cons] at ih ⊢
      simp
      omega
    | text content =>
      cases hstep
      cases frames with
      | nil => simpa [Event.isOpening, Event.isClosing, add] using ih
      | cons f rest => simpa [Event.isOpening, Event.isClosing, add] using ih
    | closing =>
      cases frames with
      | nil => cases hstep
      | cons f rest =>
        cases hstep
        cases rest with
        | nil => simp_all [Event.isOpening, Event.isClosing, add]
        | cons parent outer =>
          simp [Event.isOpening, Event.isClosing, add] at ih ⊢
          omega

end Nesting

/-! ## Closed elements -/

/-- Somewhere in a sequence of events an element with a tag and parts is closed, and these events
come after. -/
def Closes (tag : Text) (es : List Event) (parts : List Part) (after : List Event) : Prop :=
  ∃ before, es = before ++ (Part.element tag parts).events ++ after

/-- The last element with a tag that is closed in a sequence of events. -/
def ClosesLast (tag : Text) (es : List Event) (parts : List Part) : Prop :=
  ∃ after, Closes tag es parts after ∧
    ∀ parts' after', Closes tag es parts' after' → after.length ≤ after'.length

/-- One more event closes nothing, unless it is the end of the element. -/
theorem closes_concat {tag : Text} {es after : List Event} {e : Event} {parts : List Part} :
    Closes tag (es ++ [e]) parts after ↔
      (∃ after', after = after' ++ [e] ∧ Closes tag es parts after') ∨
      after = [] ∧ e = .closing ∧ ∃ before, es = before ++ .opening tag :: Part.eventsOf parts := by
  constructor
  · rintro ⟨before, h⟩
    rcases List.eq_nil_or_concat after with rfl | ⟨after', e', rfl⟩
    · right
      rw [List.append_nil, Part.events, ← List.cons_append, ← List.append_assoc] at h
      obtain ⟨hes, he⟩ := List.append_inj' h rfl
      exact ⟨rfl, by simpa using he, before, hes⟩
    · left
      rw [List.concat_eq_append, ← List.append_assoc] at h
      obtain ⟨hes, he⟩ := List.append_inj' h rfl
      exact ⟨after', by rw [List.concat_eq_append, he], before, hes⟩
  · rintro (⟨after', rfl, before, rfl⟩ | ⟨rfl, rfl, before, rfl⟩)
    · exact ⟨before, by rw [List.append_assoc]⟩
    · exact ⟨before, by simp [Part.events]⟩

/-- The root of a builder is the tree of the last closed element with the root tag. -/
def IsRoot (s : Builder.Settings ε) (es : List Event) : Option Tree → Prop
  | none => ∀ parts after, ¬ Closes s.rootTag es parts after
  | some t => ∃ parts, ClosesLast s.rootTag es parts ∧ t = Part.tree s.normalized s.rootTag parts

variable {s : Builder.Settings ε}

/-- Events that close no element with the root tag leave the root alone. -/
theorem isRoot_concat_of_not {es : List Event} {e : Event} {root : Option Tree}
    (h : IsRoot s es root)
    (hnot : ∀ parts before, e = .closing →
      es ≠ before ++ .opening s.rootTag :: Part.eventsOf parts) :
    IsRoot s (es ++ [e]) root := by
  have hcloses : ∀ parts after, Closes s.rootTag (es ++ [e]) parts after ↔
      ∃ after', after = after' ++ [e] ∧ Closes s.rootTag es parts after' := by
    intro parts after
    rw [closes_concat, or_iff_left]
    rintro ⟨_, he, before, hes⟩
    exact hnot parts before he hes
  cases root with
  | none =>
    intro parts after hafter
    obtain ⟨after', _, hafter'⟩ := (hcloses parts after).mp hafter
    exact h parts after' hafter'
  | some t =>
    obtain ⟨parts, ⟨after, hafter, hlast⟩, ht⟩ := h
    refine ⟨parts, ⟨after ++ [e], (hcloses _ _).mpr ⟨after, rfl, hafter⟩, ?_⟩, ht⟩
    intro parts' after' hafter'
    obtain ⟨after'', rfl, hafter''⟩ := (hcloses _ _).mp hafter'
    have hle := hlast parts' after'' hafter''
    rw [List.length_append, List.length_append]
    exact Nat.add_le_add_right hle _

/-- The root stays the last closed one with every event. -/
theorem isRoot_rootAfter {es : List Event} {n n' : Nesting} {e : Event} {root : Option Tree}
    (hn : Nesting.run {} es = some n) (hstep : n.step e = some n') (h : IsRoot s es root) :
    IsRoot s (es ++ [e]) (n.rootAfter s root e) := by
  cases e with
  | opening tag => exact isRoot_concat_of_not h fun _ _ he ↦ by cases he
  | text content => exact isRoot_concat_of_not h fun _ _ he ↦ by cases he
  | closing =>
    cases hframes : n.frames with
    | nil => simp [Nesting.step, hframes] at hstep
    | cons f rest =>
      rw [Nesting.rootAfter_closing hframes]
      by_cases htag : f.tag = s.rootTag
      · obtain ⟨before, hbefore⟩ := (Nesting.frames_eq_cons_iff hn).mp ⟨rest, hframes⟩
        rw [htag] at hbefore
        rw [if_pos htag, htag]
        refine ⟨f.parts, ⟨[], ?_, fun _ _ _ ↦ Nat.zero_le _⟩, rfl⟩
        exact closes_concat.mpr (.inr ⟨rfl, rfl, before, hbefore⟩)
      · rw [if_neg htag]
        apply isRoot_concat_of_not h
        rintro parts before _ hes
        obtain ⟨rest', hrest'⟩ := (Nesting.frames_eq_cons_iff hn (f := ⟨s.rootTag, parts⟩)).mpr
          ⟨before, hes⟩
        rw [hframes] at hrest'
        cases hrest'
        exact htag rfl

namespace Builder

/-! ## Runs -/

theorem run_append (b : Builder) (es more : List Event) :
    b.run s (es ++ more) = (b.run s es >>= fun b' ↦ b'.run s more) := List.foldlM_append ..

theorem run_cons (b : Builder) (e : Event) (es : List Event) :
    b.run s (e :: es) = (b.step s e >>= fun b' ↦ b'.run s es) := List.foldlM_cons ..

theorem run_concat (b : Builder) (es : List Event) (e : Event) :
    b.run s (es ++ [e]) = (b.run s es >>= fun b' ↦ b'.step s e) := by
  rw [run_append]
  congr 1
  funext b'
  rw [run_cons]
  exact bind_pure _

/-- After events that are not refused, a builder holds what they describe. -/
theorem run_eq_ok {es : List Event} {b : Builder} (h : run s {} es = .ok b) :
    ∃ n, Nesting.run {} es = some n ∧ b = n.builder s b.root ∧ IsRoot s es b.root := by
  -- by induction from the end, since what holds after an event depends on all events before it
  induction es using List.reverseRecOn generalizing b with
  | nil =>
    cases h
    refine ⟨{}, rfl, rfl, ?_⟩
    rintro parts after ⟨before, hes⟩
    simp [Part.events] at hes
  | append_singleton es e ih =>
    rw [run_concat, bind_eq_ok] at h
    obtain ⟨c, hc, hstep⟩ := h
    obtain ⟨n, hn, hbuilder, hroot⟩ := ih hc
    rw [hbuilder] at hstep
    obtain ⟨n', hn', rfl⟩ := Nesting.step_of_builder_ok hstep
    refine ⟨n', ?_, rfl, isRoot_rootAfter hn hn' hroot⟩
    rw [Nesting.run_concat, hn]
    exact hn'

/-- A builder accepts nested events with texts that can be normalized. -/
theorem run_of_nesting {es : List Event} {n n' : Nesting} (h : n.run es = some n')
    (hnorm : ∀ content, .text content ∈ es → ∃ t, s.normalize content = .ok t)
    (root : Option Tree) : ∃ root', (n.builder s root).run s es = .ok (n'.builder s root') := by
  induction es generalizing n root with
  | nil =>
    cases h
    exact ⟨root, rfl⟩
  | cons e es ih =>
    rw [Nesting.run_cons, Option.bind_eq_some_iff] at h
    obtain ⟨m, hstep, hrest⟩ := h
    have hread : n.Readable s e := by
      rintro content rfl _
      exact hnorm content List.mem_cons_self
    rw [run_cons, Nesting.step_builder hstep hread]
    exact ih hrest (fun content h ↦ hnorm content (List.mem_cons_of_mem e h)) _

/-- Texts outside of all elements have no owner. -/
theorem run_texts (texts : List Text) (root : Option Tree) :
    run s ⟨[], root⟩ (texts.map .text) = .ok ⟨[], root⟩ := by
  induction texts with
  | nil => rfl
  | cons content texts ih =>
    rw [List.map_cons, run_cons]
    exact ih

/-- A builder can be finished once no element is open and one with the root tag was closed. -/
theorem finish_eq_ok {b : Builder} {t : Tree} {tag : Text} :
    b.finish tag = .ok t ↔ b.stack = [] ∧ b.root = some t := by
  obtain ⟨stack, root⟩ := b
  cases stack with
  | nil => cases root <;> simp [finish]
  | cons top rest => simp [finish]

/-- A description of an element with the root tag, with texts around it, is built into its tree. -/
theorem run_description (s : Settings ε) (parts : List Part) (before after : List Text)
    (hnorm : ∀ content, .text content ∈ Part.eventsOf parts → ∃ t, s.normalize content = .ok t) :
    run s {} (before.map .text ++ (Part.element s.rootTag parts).events ++ after.map .text) =
      .ok ⟨[], some (Part.tree s.normalized s.rootTag parts)⟩ := by
  have hopen : Nesting.run {} (.opening s.rootTag :: Part.eventsOf parts) =
      some ⟨[], [⟨s.rootTag, parts⟩]⟩ := by
    rw [Nesting.run_cons, Nesting.step, Option.bind_some, Nesting.run_eventsOf]
    rfl
  obtain ⟨root, hrun⟩ : ∃ root, run s {} (.opening s.rootTag :: Part.eventsOf parts) =
      .ok (Nesting.builder s root ⟨[], [⟨s.rootTag, parts⟩]⟩) :=
    run_of_nesting hopen (by simpa using hnorm) none
  have hclose : (Nesting.builder s root ⟨[], [⟨s.rootTag, parts⟩]⟩).step s .closing =
      .ok ⟨[], some (Part.tree s.normalized s.rootTag parts)⟩ := by
    have hstep : Nesting.step ⟨[], [⟨s.rootTag, parts⟩]⟩ .closing =
        some ⟨[.element s.rootTag parts], []⟩ := rfl
    rw [Nesting.step_builder hstep (fun _ h ↦ by cases h), Nesting.rootAfter_closing rfl,
      if_pos rfl]
    rfl
  rw [run_append, run_append, run_texts, ok_bind, Part.events, ← List.cons_append, run_concat,
    hrun, ok_bind, hclose, ok_bind, run_texts]

/-- A builder turns a description of an element with the root tag, with texts around it, into the
tree of the element, in which every element is closed and every map has the entries that its
children say. After any events that are not refused it can be finished exactly if they are balanced
and close an element with the root tag, and then the last such element is the document. -/
theorem finish_described (s : Settings ε) :
    (∀ parts (before after : List Text),
      (∀ content, .text content ∈ Part.eventsOf parts → ∃ t, s.normalize content = .ok t) →
      ∃ b, run s {} (before.map .text ++ (Part.element s.rootTag parts).events ++ after.map .text) =
          .ok b ∧
        b.depth = 0 ∧ b.finish s.rootTag = .ok (Part.tree s.normalized s.rootTag parts)) ∧
    (∀ parts, ∀ t ∈ (Part.tree s.normalized s.rootTag parts).nodes,
      t.closed = true ∧
      t.entries = if t.tag = mapTag then Assoc.ofList (Tree.keyed t.children) else []) ∧
    (∀ es b, run s {} es = .ok b →
      ((∃ t, b.finish s.rootTag = .ok t) ↔
        es.countP Event.isOpening = es.countP Event.isClosing ∧
          ∃ parts after, Closes s.rootTag es parts after) ∧
      ∀ t, b.finish s.rootTag = .ok t →
        ∃ parts, ClosesLast s.rootTag es parts ∧
          t = Part.tree s.normalized s.rootTag parts) := by
  refine ⟨?_, ?_, ?_⟩
  · intro parts before after hnorm
    exact ⟨_, run_description s parts before after hnorm, rfl, rfl⟩
  · intro parts t ht
    obtain ⟨tag, inner, rfl⟩ := Part.eq_tree_of_mem_nodes s.normalized ht
    exact ⟨rfl, Part.entries_tree s.normalized tag inner⟩
  · intro es b hrun
    obtain ⟨n, hn, hbuilder, hroot⟩ := run_eq_ok hrun
    have hstack : b.stack = [] ↔ n.frames = [] := by
      rw [hbuilder]
      exact List.map_eq_nil_iff
    have hcount := Nesting.count_of_run hn
    constructor
    · constructor
      · rintro ⟨t, ht⟩
        obtain ⟨hempty, hsome⟩ := finish_eq_ok.mp ht
        rw [hsome] at hroot
        obtain ⟨parts, ⟨after, hafter, _⟩, _⟩ := hroot
        rw [hstack.mp hempty] at hcount
        exact ⟨hcount, parts, after, hafter⟩
      · rintro ⟨hbalanced, parts, after, hafter⟩
        have hempty : n.frames = [] := by
          apply List.eq_nil_of_length_eq_zero
          omega
        cases hsome : b.root with
        | none =>
          rw [hsome] at hroot
          exact absurd hafter (hroot parts after)
        | some t => exact ⟨t, finish_eq_ok.mpr ⟨hstack.mpr hempty, hsome⟩⟩
    · intro t ht
      obtain ⟨_, hsome⟩ := finish_eq_ok.mp ht
      rw [hsome] at hroot
      exact hroot

end Builder

end ScriptDefs.Markup
