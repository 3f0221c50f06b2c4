import ScriptDefs.Markup.Basic

/-!
# Registries of nodes

Nodes that are known by number, so that one node can be a child of several others and its text can change
after it has become a child.
-/

namespace ScriptDefs.Markup

/-- A node whose children are given by number. -/
structure Node where
  kind : NodeKind
  tag : Text
  text : Text := []
  closed : Bool := false
  children : List Nat := []
  index : Assoc Text Nat := []
  deriving DecidableEq, Repr

/-- All nodes, in the order of their creation. -/
abbrev Registry := List Node

namespace Registry

/-- The registry with one more node. -/
def create (kind : NodeKind) (tag : Text) (r : Registry) : Registry := r ++ [{ kind := kind, tag := tag }]

/-- The registry with a node changed. -/
def change (i : Nat) (f : Node → Node) (r : Registry) : Registry := r.modify i f

/-- A node gets a text. -/
def setText (i : Nat) (text : Text) : Registry → Registry := change i fun n ↦ { n with text }

/-- A node accepts no more children. -/
def close (i : Nat) : Registry → Registry := change i fun n ↦ { n with closed := true }

/-- The tag and the text of the last child of a node. -/
def lastChild? (r : Registry) (n : Node) : Option (Text × Text) :=
  (n.children.getLast?.bind fun j ↦ r[j]?).map fun c ↦ (c.tag, c.text)

/-- A node becomes the last child of another one, unless that is closed. Numbers of no node change
nothing. -/
def append (i j : Nat) (r : Registry) : Except StructureError Registry :=
  match r[i]?, r[j]? with
  | some parent, some child =>
    if parent.closed then .error (.appendToClosed child.tag parent.tag)
    else
      .ok (r.change i fun n ↦
        { n with
          children := n.children ++ [j]
          index := indexAfter n.kind (r.lastChild? parent) n.index j })
  | _, _ => .ok r

/-- The keys of a node with the nodes found under them. -/
def entries (r : Registry) (i : Nat) : Assoc Text Nat := ((r[i]?).map (·.index)).getD []

/-- A node as it is shown in messages. -/
def shown (r : Registry) (n : Node) : Text :=
  shownNode n.kind n.tag n.text
    (n.index.filterMap fun e ↦ (r[e.2]?).map fun c ↦ (e.1, c.text, c.tag))

/-- What is done with nodes. -/
inductive Operation where
  | create (kind : NodeKind) (tag : Text)
  | setText (i : Nat) (text : Text)
  | append (i j : Nat)
  | close (i : Nat)
  deriving DecidableEq, Repr

/-- The nodes after an operation; an append that is refused changes none of them. -/
def perform (r : Registry) : Operation → Registry
  | .create kind tag => r.create kind tag
  | .setText i text => r.setText i text
  | .append i j =>
    match r.append i j with
    | .ok r' => r'
    | .error _ => r
  | .close i => r.close i

/-- The nodes after operations in turn. -/
def run (r : Registry) (ops : List Operation) : Registry := ops.foldl perform r

end Registry

end ScriptDefs.Markup
