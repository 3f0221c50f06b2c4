import ScriptDefs.Markup.Builder
import ScriptDefs.Markup.Registry

/-!
# Builders over numbered nodes

A builder seen as a machine over nodes that keep their identity: an element is created when it is
opened, and from then on its text, its children and its index are changed in place. Every call does
its changes one after the other, so that a refusal in the middle of a call leaves what was done
before it.
-/

namespace ScriptDefs.Markup

variable {ε : Type}

/-- Nodes by number, the numbers of the open ones, the innermost first, and the number of the last
closed root. -/
structure Arena where
  nodes : Registry := []
  stack : List Nat := []
  root : Option Nat := none

namespace Arena

/-- The tag of a node. -/
def tag? (a : Arena) (i : Nat) : Option Text := a.nodes[i]?.map (·.tag)

/-- One more node, which is open. -/
def opening (tag : Text) (a : Arena) : Arena :=
  { a with nodes := a.nodes.create (kindOf tag) tag, stack := a.nodes.length :: a.stack }

/-- The innermost open node gets a text. -/
def text (s : Builder.Settings ε) (content : Text) (a : Arena) : Arena × CallResult ε Nat :=
  match a.stack with
  | [] => (a, .ok none)
  | i :: _ =>
    match s.normalize content with
    | .error e => (a, .error (.normalizer e))
    | .ok t => ({ a with nodes := a.nodes.setText i t }, .ok none)

/-- A node with the root tag is recorded as the document. -/
def record (s : Builder.Settings ε) (i : Nat) (a : Arena) : Arena :=
  if a.tag? i = some s.rootTag then { a with root := some i } else a

/-- The innermost open node is taken from the stack and closed, then it becomes a child of the next
one, then it is recorded. -/
def closing (s : Builder.Settings ε) (a : Arena) : Arena × CallResult ε Nat :=
  match a.stack with
  | [] => (a, .error (.structural .extraClose))
  | i :: rest =>
    let closed : Arena := { a with nodes := a.nodes.close i, stack := rest }
    match rest with
    | [] => (closed.record s i, .ok none)
    | j :: _ =>
      match closed.nodes.append j i with
      | .error e => (closed, .error (.structural e))
      | .ok nodes => ({ closed with nodes }.record s i, .ok none)

/-- The document, once all nodes are closed. -/
def finish (s : Builder.Settings ε) (a : Arena) : CallResult ε Nat :=
  match a.stack, a.root with
  | [], some i => .ok (some i)
  | [], none => .error (.structural (.noRoot s.rootTag))
  | stack, _ => .error (.structural (.unclosed (stack.reverse.filterMap a.tag?)))

/-- The arena after a call, and what the call ends with. -/
def call (s : Builder.Settings ε) (a : Arena) : Call → Arena × CallResult ε Nat
  | .event (.opening tag) => (a.opening tag, .ok none)
  | .event (.text content) => a.text s content
  | .event .closing => a.closing s
  | .finish => (a, a.finish s)

/-- The arena after calls; calls that are refused do not stop it. -/
def run (s : Builder.Settings ε) (a : Arena) (calls : List Call) : Arena :=
  calls.foldl (fun a c ↦ (a.call s c).1) a

end Arena

end ScriptDefs.Markup
