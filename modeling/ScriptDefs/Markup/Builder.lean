import ScriptDefs.Markup.Tree

/-!
# Building trees from events

A builder keeps the elements that are open, the innermost first. An element is attached to its parent when
it closes. Text goes to the innermost open element, and later text replaces earlier text. The last
closed element with the root tag is the document.
-/

namespace ScriptDefs.Markup

/-- The open elements, the innermost first, and the last closed root. -/
structure Builder where
  stack : List Tree := []
  root : Option Tree := none

/-- Why an event is refused: the nesting is violated, or the text cannot be normalized. -/
inductive BuildError (ε : Type) where
  | structural (e : StructureError)
  | normalizer (e : ε)
  deriving Repr

/-- What is asked of a builder. -/
inductive Call where
  | event (e : Event)
  | finish
  deriving DecidableEq, Repr

/-- What a call ends with; only a document that is finished is handed over. -/
abbrev CallResult (ε α : Type) := Except (BuildError ε) (Option α)

/-- What a builder does with texts, and which element is the document. -/
structure Builder.Settings (ε : Type) where
  normalize : Text → Except ε Text
  rootTag : Text

namespace Builder

variable {ε : Type}

/-- The number of open elements. -/
def depth (b : Builder) : Nat := b.stack.length

/-- One more open element. -/
def opening (tag : Text) (b : Builder) : Builder := { b with stack := Tree.new tag :: b.stack }

/-- The innermost open element gets a text; outside the outermost one a text has no owner. -/
def text (s : Settings ε) (content : Text) (b : Builder) : Except (BuildError ε) Builder :=
  match b.stack with
  | [] => .ok b
  | top :: rest =>
    match s.normalize content with
    | .error e => .error (.normalizer e)
    | .ok t => .ok { b with stack := top.withText t :: rest }

/-- The innermost open element closes and becomes a child of the next one. -/
def closing (s : Settings ε) (b : Builder) : Except (BuildError ε) Builder :=
  match b.stack with
  | [] => .error (.structural .extraClose)
  | top :: rest =>
    let node := top.close
    let root := if node.tag = s.rootTag then some node else b.root
    match rest with
    | [] => .ok ⟨[], root⟩
    | parent :: outer =>
      match parent.append node with
      | .error e => .error (.structural e)
      | .ok parent' => .ok ⟨parent' :: outer, root⟩

/-- The builder after an event. -/
def step (s : Settings ε) (b : Builder) : Event → Except (BuildError ε) Builder
  | .opening tag => .ok (b.opening tag)
  | .text content => b.text s content
  | .closing => b.closing s

/-- The builder after events up to the first that is refused, and why it was refused. -/
def runUntilError (s : Settings ε) (b : Builder) : List Event → Builder × Option (BuildError ε)
  | [] => (b, none)
  | e :: rest =>
    match b.step s e with
    | .ok b' => runUntilError s b' rest
    | .error err => (b, some err)

/-- The builder after events. -/
def run (s : Settings ε) (b : Builder) (events : List Event) : Except (BuildError ε) Builder :=
  events.foldlM (step s) b

/-- The document, once all elements are closed. -/
def finish (rootTag : Text) (b : Builder) : Except StructureError Tree :=
  match b.stack, b.root with
  | [], some root => .ok root
  | [], none => .error (.noRoot rootTag)
  | stack, _ => .error (.unclosed (stack.reverse.map Tree.tag))

/-- The builder after a call, and what the call ends with. -/
def call (s : Settings ε) (b : Builder) : Call → Builder × CallResult ε Tree
  | .event e =>
    match b.step s e with
    | .ok b' => (b', .ok none)
    | .error err => (b, .error err)
  | .finish =>
    match b.finish s.rootTag with
    | .ok t => (b, .ok (some t))
    | .error e => (b, .error (.structural e))

/-- The builder after calls; calls that are refused do not stop it. -/
def after (s : Settings ε) (b : Builder) (calls : List Call) : Builder :=
  calls.foldl (fun b c ↦ (b.call s c).1) b

end Builder

end ScriptDefs.Markup
