import ScriptDefs.Markup.Callback
import ScriptDefs.Proofs.Data.Runs

/-!
# Pieces of texts

A reader hands over a text in pieces, and where it cuts is up to the reader. The cuts do not show: every
run of pieces becomes one text event, so callbacks that differ in cuts only amount to the same events.
A source that keeps pieces back and hands them over before the next tag does just this in front of a
builder, an event that the builder refuses included.
-/

namespace ScriptDefs.Markup

variable {ε : Type}

namespace Callback

/-- The piece that a callback hands over, if it is one of a text. -/
def piece? : Callback → Option Text
  | .characters content => some content
  | _ => none

/-- A callback hands over a piece of a text. -/
def isPiece (c : Callback) : Bool := c.piece?.isSome

theorem exists_of_isPiece {c : Callback} (hc : isPiece c = true) :
    ∃ content, c = .characters content := by
  cases c with
  | characters content => exact ⟨content, rfl⟩
  | startElement tag => cases hc
  | endElement => cases hc
  | endDocument => cases hc

/-- What a run of pieces amounts to, or a callback of another kind on its own. -/
def eventsOfRun (run : List Callback) : List Event :=
  if run.all isPiece then [.text (Text.concat (run.filterMap piece?))] else run.flatMap tagEvents

/-- A callback before others. Its piece and the next one are joined if neither is empty. -/
def attach : Callback → List Callback → List Callback
  | .characters piece, .characters next :: rest =>
    if piece ≠ [] ∧ next ≠ [] then .characters (piece ++ next) :: rest
    else .characters piece :: .characters next :: rest
  | c, rest => c :: rest

/-- Callbacks with adjacent pieces joined wherever neither is empty. -/
def joined (callbacks : List Callback) : List Callback := callbacks.foldr attach []

/-! ## Cuts -/

theorem flushed_cons (content : Text) (pending : List Text) :
    flushed (content :: pending) = [.text (Text.concat pending.reverse ++ content)] := by
  simp [flushed, Text.concat]

/-- Pieces that make the same text make the same text with one more piece. -/
theorem flushed_cons_congr {pending pending' : List Text} (h : flushed pending = flushed pending')
    (content : Text) : flushed (content :: pending) = flushed (content :: pending') := by
  cases pending with
  | nil =>
    cases pending' with
    | nil => rfl
    | cons piece' pending' => simp [flushed] at h
  | cons piece pending =>
    cases pending' with
    | nil => simp [flushed] at h
    | cons piece' pending' =>
      rw [flushed, flushed] at h
      rw [flushed_cons, flushed_cons]
      have hconcat : Text.concat (piece :: pending).reverse =
          Text.concat (piece' :: pending').reverse := Event.text.inj (List.cons.inj h).1
      rw [hconcat]

/-- Of the pieces kept so far only the text matters that they make. -/
theorem eventsFrom_congr {pending pending' : List Text} (h : flushed pending = flushed pending')
    (callbacks : List Callback) : eventsFrom pending callbacks = eventsFrom pending' callbacks := by
  induction callbacks generalizing pending pending' with
  | nil => rfl
  | cons c rest ih =>
    cases c with
    | characters content => exact ih (flushed_cons_congr h content)
    | startElement tag => rw [eventsFrom, eventsFrom, h]
    | endElement => rw [eventsFrom, eventsFrom, h]
    | endDocument => rw [eventsFrom, eventsFrom, h]

/-- Joining two pieces does not change the events. -/
theorem eventsFrom_attach (pending : List Text) (c : Callback) (rest : List Callback) :
    eventsFrom pending (attach c rest) = eventsFrom pending (c :: rest) := by
  fun_cases attach c rest with
  | case1 piece next rest h =>
    have hflushed : flushed ((piece ++ next) :: pending) = flushed (next :: piece :: pending) := by
      rw [flushed_cons, flushed_cons]
      simp [Text.concat]
    exact eventsFrom_congr hflushed rest
  | case2 => rfl
  | case3 => rfl

theorem eventsFrom_joined (pending : List Text) (callbacks : List Callback) :
    eventsFrom pending (joined callbacks) = eventsFrom pending callbacks := by
  induction callbacks generalizing pending with
  | nil => rfl
  | cons c rest ih =>
    have hattach : joined (c :: rest) = attach c (joined rest) := rfl
    rw [hattach, eventsFrom_attach]
    cases c <;> simp only [eventsFrom, ih]

/-! ## Runs of pieces -/

/-- The pieces kept so far are handed over before any other callback. -/
theorem eventsFrom_cons {c : Callback} (hc : isPiece c = false) (pending : List Text)
    (rest : List Callback) :
    eventsFrom pending (c :: rest) = (flushed pending ++ c.tagEvents) ++ eventsFrom [] rest := by
  cases c with
  | characters content => cases hc
  | startElement tag => simp [eventsFrom, tagEvents]
  | endElement => simp [eventsFrom, tagEvents]
  | endDocument => simp [eventsFrom, tagEvents]

/-- The pieces kept so far are handed over before anything that begins with another callback. -/
theorem eventsFrom_of_head {rest : List Callback} (hne : rest ≠ [])
    (hhead : ∀ c ∈ rest.head?, isPiece c = false) (pending : List Text) :
    eventsFrom pending rest = flushed pending ++ events rest := by
  obtain ⟨c, rest, rfl⟩ := List.exists_cons_of_ne_nil hne
  have hc : isPiece c = false := hhead c rfl
  rw [events, eventsFrom_cons hc, eventsFrom_cons hc, List.append_assoc]
  rfl

/-- Pieces are kept, the last one first. -/
theorem eventsFrom_pieces {run : List Callback} (hrun : ∀ c ∈ run, isPiece c = true)
    (pending : List Text) (rest : List Callback) :
    eventsFrom pending (run ++ rest) =
      eventsFrom ((run.filterMap piece?).reverse ++ pending) rest := by
  induction run generalizing pending with
  | nil => rfl
  | cons c run ih =>
    obtain ⟨hc, htail⟩ := List.forall_mem_cons.mp hrun
    obtain ⟨content, rfl⟩ := exists_of_isPiece hc
    rw [List.cons_append, eventsFrom, ih htail]
    simp [piece?]

/-- The pieces of a run make one text event. -/
theorem flushed_run {run : List Callback} (hne : run ≠ []) (hrun : ∀ c ∈ run, isPiece c = true) :
    flushed (run.filterMap piece?).reverse = eventsOfRun run := by
  obtain ⟨c, rest, rfl⟩ := List.exists_cons_of_ne_nil hne
  obtain ⟨content, hcontent⟩ := Option.isSome_iff_exists.mp (hrun c List.mem_cons_self)
  rw [eventsOfRun, if_pos (List.all_eq_true.mpr hrun), List.filterMap_cons_some hcontent]
  simp [flushed]

/-- Every run of pieces is one text event, where it stands among the tags. -/
theorem events_eq_runs (callbacks : List Callback) :
    events (callbacks ++ [.endDocument]) =
      (runs isPiece (callbacks ++ [.endDocument])).flatMap eventsOfRun := by
  induction callbacks using runs_induction (p := isPiece) with
  | nil => rfl
  | cons c rest hc ih =>
    have hone : eventsOfRun [c] = c.tagEvents := by simp [eventsOfRun, hc]
    rw [List.cons_append, runs_cons hc, List.flatMap_cons, hone, ← ih]
    exact eventsFrom_cons hc [] _
  | run run rest hne hrun hrest ih =>
    have hhead : ∀ c ∈ (rest ++ [endDocument]).head?, isPiece c = false := by
      cases rest with
      | nil =>
        rintro c ⟨⟩
        rfl
      | cons d rest => exact hrest
    rw [List.append_assoc, runs_append hne hrun hhead, List.flatMap_cons, ← ih, events,
      eventsFrom_pieces hrun, List.append_nil, eventsFrom_of_head (by simp) hhead,
      flushed_run hne hrun]

end Callback

/-! ## A source in front of a builder -/

/-- More events reach a builder if none before them is refused. -/
theorem Builder.runUntilError_append (s : Settings ε) (b : Builder) (es more : List Event) :
    b.runUntilError s (es ++ more) =
      match b.runUntilError s es with
      | (b', none) => b'.runUntilError s more
      | (b', some err) => (b', some err) := by
  induction es generalizing b with
  | nil => rfl
  | cons e es ih =>
    rw [List.cons_append, runUntilError, runUntilError]
    cases b.step s e with
    | ok b' => exact ih b'
    | error err => rfl

namespace Source

open Callback (flushed eventsFrom eventsFrom_cons)

theorem run_cons (s : Builder.Settings ε) (src : Source) (c : Callback) (rest : List Callback) :
    src.run s (c :: rest) =
      match src.receive s c with
      | (src', none) => src'.run s rest
      | (src', some err) => (src', some err) := rfl

/-- What a callback other than a piece leads to. -/
theorem receive_of_not_piece {c : Callback} (hc : c.isPiece = false) (s : Builder.Settings ε)
    (src : Source) :
    src.receive s c =
      let made := src.builder.runUntilError s (flushed src.pending ++ c.tagEvents)
      (⟨[], made.1⟩, made.2) := by
  cases c with
  | characters content => cases hc
  | startElement tag => rfl
  | endElement => rfl
  | endDocument => rfl

/-- A whole document leaves no piece behind, and the builder as its events leave it. -/
theorem run_document (s : Builder.Settings ε) (src : Source) (callbacks : List Callback) :
    src.run s (callbacks ++ [.endDocument]) =
      let made := src.builder.runUntilError s
        (eventsFrom src.pending (callbacks ++ [.endDocument]))
      (⟨[], made.1⟩, made.2) := by
  induction callbacks generalizing src with
  | nil =>
    have hc : Callback.isPiece .endDocument = false := rfl
    rw [List.nil_append, run_cons, receive_of_not_piece hc, eventsFrom_cons hc, eventsFrom,
      List.append_nil]
    cases src.builder.runUntilError s (flushed src.pending ++ Callback.endDocument.tagEvents) with
    | mk b refused => cases refused <;> rfl
  | cons c rest ih =>
    cases hc : c.isPiece with
    | true =>
      obtain ⟨content, rfl⟩ := Callback.exists_of_isPiece hc
      exact ih { src with pending := content :: src.pending }
    | false =>
      rw [List.cons_append, run_cons, receive_of_not_piece hc, eventsFrom_cons hc,
        Builder.runUntilError_append s src.builder (flushed src.pending ++ c.tagEvents)]
      cases src.builder.runUntilError s (flushed src.pending ++ c.tagEvents) with
      | mk b refused =>
        cases refused with
        | none => exact ih ⟨[], b⟩
        | some err => rfl

end Source

/-- Cuts between pieces do not show. Two documents whose callbacks are the same once adjacent pieces that
are not empty are joined amount to the same events: one text for every run of pieces and one event for
every tag, in their order. A source in front of a builder is left the same by both, whatever the builder
does with texts: with no piece left, and with the builder as those events leave it, up to the first that
it refuses. -/
theorem Callback.pieces_invisible (s : Builder.Settings ε) (b : Builder)
    (callbacks callbacks' : List Callback)
    (h : joined (callbacks ++ [.endDocument]) = joined (callbacks' ++ [.endDocument])) :
    let document := callbacks ++ [.endDocument]
    let document' := callbacks' ++ [.endDocument]
    let made := b.runUntilError s (events document)
    events document = events document' ∧
      events document = (runs isPiece document).flatMap eventsOfRun ∧
      Source.run s ⟨[], b⟩ document = Source.run s ⟨[], b⟩ document' ∧
      Source.run s ⟨[], b⟩ document = (⟨[], made.1⟩, made.2) := by
  have hevents : events (callbacks ++ [.endDocument]) = events (callbacks' ++ [.endDocument]) := by
    rw [events, ← eventsFrom_joined, h, eventsFrom_joined, ← events]
  refine ⟨hevents, events_eq_runs callbacks, ?_, Source.run_document s ⟨[], b⟩ callbacks⟩
  rw [Source.run_document, Source.run_document, ← events, ← events, hevents]

/-- The text of a key in other cuts, around an empty piece that both readers hand over. -/
theorem Callback.pieces_invisible_recut :
    let callbacks : List Callback := [.startElement "key", .characters "ab", .characters "",
      .characters "c", .characters "d", .endElement]
    let callbacks' : List Callback := [.startElement "key", .characters "a", .characters "b",
      .characters "", .characters "cd", .endElement]
    let plain : Builder.Settings Empty := ⟨.ok, rootTag⟩
    joined (callbacks ++ [.endDocument]) = joined (callbacks' ++ [.endDocument]) ∧
      events (callbacks ++ [.endDocument]) = events (callbacks' ++ [.endDocument]) ∧
      events (callbacks ++ [.endDocument]) = [.opening "key", .text "abcd", .closing] ∧
      Source.run plain ⟨[], {}⟩ (callbacks ++ [.endDocument]) =
        Source.run plain ⟨[], {}⟩ (callbacks' ++ [.endDocument]) := by
  intro callbacks callbacks' plain
  have hjoined : joined (callbacks ++ [.endDocument]) = joined (callbacks' ++ [.endDocument]) := by
    decide
  obtain ⟨hevents, -, hrun, -⟩ := pieces_invisible plain {} callbacks callbacks' hjoined
  exact ⟨hjoined, hevents, by decide, hrun⟩

end ScriptDefs.Markup
