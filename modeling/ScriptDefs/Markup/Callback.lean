import ScriptDefs.Markup.Builder

/-!
# Callbacks of a reader

A reader reports the start and the end of every element and hands over texts in pieces. Pieces that follow
one another are joined into a single text event before the next tag. A source stands between a reader and
a builder: it keeps the pieces and drives the builder with the events.
-/

namespace ScriptDefs.Markup

/-- What a reader reports. -/
inductive Callback where
  | startElement (tag : Text)
  | endElement
  | characters (content : Text)
  | endDocument
  deriving DecidableEq, Repr

namespace Callback

/-- The text event for the pieces collected so far, if there are any; they are kept in reverse. -/
def flushed (pending : List Text) : List Event :=
  if pending.isEmpty then [] else [.text (Text.concat pending.reverse)]

/-- The event of a tag. -/
def tagEvents : Callback → List Event
  | .startElement tag => [.opening tag]
  | .endElement => [.closing]
  | .characters _ | .endDocument => []

/-- The events that callbacks amount to, after pieces that are still to be joined. -/
def eventsFrom (pending : List Text) : List Callback → List Event
  | [] => []
  | .characters content :: rest => eventsFrom (content :: pending) rest
  | .startElement tag :: rest => flushed pending ++ .opening tag :: eventsFrom [] rest
  | .endElement :: rest => flushed pending ++ .closing :: eventsFrom [] rest
  | .endDocument :: rest => flushed pending ++ eventsFrom [] rest

/-- The events that callbacks amount to. -/
def events (callbacks : List Callback) : List Event := eventsFrom [] callbacks

end Callback

/-- The pieces that are still to be handed over, the last one first, and the builder behind. -/
structure Source where
  pending : List Text := []
  builder : Builder := {}

namespace Source

variable {ε : Type}

open Callback (flushed)

/-- The source after a callback, and why the builder refused an event, if it did. A piece is kept. Before
anything else the pieces are handed over as one text; they are gone even if it is refused. -/
def receive (s : Builder.Settings ε) (src : Source) : Callback → Source × Option (BuildError ε)
  | .characters content => ({ src with pending := content :: src.pending }, none)
  | c =>
    let (b, refused) := src.builder.runUntilError s (flushed src.pending ++ c.tagEvents)
    (⟨[], b⟩, refused)

/-- The source after callbacks up to the first with an event that is refused, and why it was refused. -/
def run (s : Builder.Settings ε) (src : Source) :
    List Callback → Source × Option (BuildError ε)
  | [] => (src, none)
  | c :: rest =>
    match src.receive s c with
    | (src', none) => run s src' rest
    | (src', some err) => (src', some err)

end Source

end ScriptDefs.Markup
