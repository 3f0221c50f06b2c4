import Mathlib.Data.List.Count
import ScriptDefs.Proofs.Markup.Part

/-!
# Nesting of events

A sequence of events without a close too many has one way to be read: parts outside of all elements,
and open elements, each with the parts that it has so far. From this it is known which elements are
closed in the sequence, and which of them last.
-/

namespace ScriptDefs.Markup

/-- An open element with its parts so far. -/
structure Frame where
  tag : Text
  parts : List Part

/-- What a sequence of events has described so far, with the innermost open element first. -/
structure Nesting where
  outer : List Part := []
  frames : List Frame := []

namespace Nesting

/-- Parts added to the innermost open element, or outside of all elements. -/
def add (parts : List Part) (n : Nesting) : Nesting :=
  match n.frames with
  | [] => { n with outer := n.outer ++ parts }
  | f :: rest => { n with frames := { f with parts := f.parts ++ parts } :: rest }

/-- One more event, unless it closes more than is open. -/
def step (n : Nesting) : Event → Option Nesting
  | .opening tag => some { n with frames := ⟨tag, []⟩ :: n.frames }
  | .text content => some (n.add [.text content])
  | .closing =>
    match n.frames with
    | [] => none
    | f :: rest => some (add [.element f.tag f.parts] { n with frames := rest })

/-- The nesting after events. -/
def run (n : Nesting) (events : List Event) : Option Nesting := events.foldlM step n

/-- The events of open elements. -/
def eventsOfFrames : List Frame → List Event
  | [] => []
  | f :: rest => eventsOfFrames rest ++ .opening f.tag :: Part.eventsOf f.parts

/-- The events that lead to a nesting. -/
def events (n : Nesting) : List Event := Part.eventsOf n.outer ++ eventsOfFrames n.frames

end Nesting

/-! ## Runs -/

theorem Part.eventsOf_append (parts more : List Part) :
    eventsOf (parts ++ more) = eventsOf parts ++ eventsOf more := by
  induction parts with
  | nil => rfl
  | cons part parts ih => rw [List.cons_append, eventsOf, eventsOf, ih, List.append_assoc]

theorem Part.eventsOf_singleton (part : Part) : eventsOf [part] = part.events :=
  List.append_nil _

namespace Nesting

@[simp] theorem add_nil (n : Nesting) : n.add [] = n := by
  obtain ⟨outer, frames⟩ := n
  cases frames with
  | nil => simp [add]
  | cons f rest => simp [add]

theorem add_add (parts more : List Part) (n : Nesting) :
    (n.add parts).add more = n.add (parts ++ more) := by
  obtain ⟨outer, frames⟩ := n
  cases frames with
  | nil => simp [add]
  | cons f rest => simp [add]

/-- Added parts come last. -/
theorem events_add (parts : List Part) (n : Nesting) :
    (n.add parts).events = n.events ++ Part.eventsOf parts := by
  obtain ⟨outer, frames⟩ := n
  cases frames with
  | nil => simp [add, events, eventsOfFrames, Part.eventsOf_append]
  | cons f rest => simp [add, events, eventsOfFrames, Part.eventsOf_append]

@[simp] theorem run_nil (n : Nesting) : n.run [] = some n := rfl

theorem run_cons (n : Nesting) (e : Event) (es : List Event) :
    n.run (e :: es) = (n.step e).bind fun n' ↦ n'.run es := List.foldlM_cons ..

theorem run_append (n : Nesting) (es more : List Event) :
    n.run (es ++ more) = (n.run es).bind fun n' ↦ n'.run more := List.foldlM_append ..

theorem run_concat (n : Nesting) (es : List Event) (e : Event) :
    n.run (es ++ [e]) = (n.run es).bind fun n' ↦ n'.step e := by
  rw [run_append]
  congr 1
  funext n'
  rw [run_cons]
  cases n'.step e <;> rfl

mutual

/-- The events of a part add the part. -/
theorem run_events (n : Nesting) : (part : Part) → n.run part.events = some (n.add [part])
  | .text content => rfl
  | .element tag parts => by
    rw [Part.events, run_cons, step, Option.bind_some, run_append, run_eventsOf _ parts,
      Option.bind_some]
    rfl

/-- The events of parts add the parts. -/
theorem run_eventsOf (n : Nesting) :
    (parts : List Part) → n.run (Part.eventsOf parts) = some (n.add parts)
  | [] => by rw [Part.eventsOf, run_nil, add_nil]
  | part :: rest => by
    rw [Part.eventsOf, run_append, run_events n part, Option.bind_some, run_eventsOf _ rest,
      add_add, List.singleton_append]

end

/-- An event adds itself to the events. -/
theorem events_step {n n' : Nesting} {e : Event} (h : n.step e = some n') :
    n'.events = n.events ++ [e] := by
  obtain ⟨outer, frames⟩ := n
  cases e with
  | opening tag =>
    cases h
    simp [events, eventsOfFrames, Part.eventsOf]
  | text content =>
    cases h
    rw [events_add]
    rfl
  | closing =>
    cases frames with
    | nil => cases h
    | cons f rest =>
      cases h
      rw [events_add, Part.eventsOf_singleton, Part.events]
      simp [events, eventsOfFrames]

/-- A nesting has come about by its events. -/
theorem events_of_run {es : List Event} {n : Nesting} (h : run {} es = some n) :
    n.events = es := by
  induction es using List.reverseRecOn generalizing n with
  | nil =>
    cases h
    rfl
  | append_singleton es e ih =>
    rw [run_concat, Option.bind_eq_some_iff] at h
    obtain ⟨m, hm, hstep⟩ := h
    rw [events_step hstep, ih hm]

/-- The innermost open element is the one at whose opening the events can be split so that its parts
follow. -/
theorem frames_eq_cons_iff {es : List Event} {n : Nesting} (h : run {} es = some n) {f : Frame} :
    (∃ rest, n.frames = f :: rest) ↔
      ∃ before, es = before ++ .opening f.tag :: Part.eventsOf f.parts := by
  constructor
  · rintro ⟨rest, hframes⟩
    refine ⟨Part.eventsOf n.outer ++ eventsOfFrames rest, ?_⟩
    rw [← events_of_run h, events, hframes, eventsOfFrames, List.append_assoc]
  · rintro ⟨before, rfl⟩
    rw [run_append, Option.bind_eq_some_iff] at h
    obtain ⟨m, _, hm⟩ := h
    rw [run_cons, step, Option.bind_some, run_eventsOf] at hm
    cases hm
    exact ⟨m.frames, rfl⟩

end Nesting

end ScriptDefs.Markup
