import ScriptDefs.Markup.Basic

/-!
# Element trees

An element with its text and its children in order; a map also has the index of its children.
-/

namespace ScriptDefs.Markup

/-- An element of a document with all that it holds. The index leads to positions of children. -/
inductive Tree where
  | mk (kind : NodeKind) (tag text : Text) (closed : Bool) (children : List Tree)
    (index : Assoc Text Nat)

namespace Tree

/-- The kind of an element. -/
def kind : Tree → NodeKind
  | .mk kind _ _ _ _ _ => kind

/-- The tag of an element. -/
def tag : Tree → Text
  | .mk _ tag _ _ _ _ => tag

/-- The text of an element. -/
def text : Tree → Text
  | .mk _ _ text _ _ _ => text

/-- The element accepts no more children. -/
def closed : Tree → Bool
  | .mk _ _ _ closed _ _ => closed

/-- The children of an element in order. -/
def children : Tree → List Tree
  | .mk _ _ _ _ children _ => children

/-- The positions of the children that are found under keys. -/
def index : Tree → Assoc Text Nat
  | .mk _ _ _ _ _ index => index

/-- A new element. -/
def new (tag : Text) : Tree := .mk (kindOf tag) tag [] false [] []

/-- The element with another text. -/
def withText (text : Text) : Tree → Tree
  | .mk kind tag _ closed children index => .mk kind tag text closed children index

/-- The element closed. -/
def close : Tree → Tree
  | .mk kind tag text _ children index => .mk kind tag text true children index

/-- The element is a map. -/
def isMap (t : Tree) : Bool := t.kind = .map

/-- The element with one more child, unless it is closed. -/
def append : Tree → Tree → Except StructureError Tree
  | .mk kind tag text closed children index, child =>
    if closed then .error (.appendToClosed child.tag tag)
    else
      let previous := children.getLast?.map fun c ↦ (c.tag, c.text)
      .ok (.mk kind tag text closed (children ++ [child])
        (indexAfter kind previous index children.length))

/-- The keys of a map with the children found under them. -/
def entries (t : Tree) : List (Text × Tree) :=
  t.index.filterMap fun e ↦ (t.children[e.2]?).map fun c ↦ (e.1, c)

/-- The child found under a key. -/
def get? (t : Tree) (key : Text) : Option Tree :=
  (t.index.lookup key).bind fun i ↦ t.children[i]?

/-- The text of the child found under a key. -/
def getText? (t : Tree) (key : Text) : Option Text := (t.get? key).map text

/-- The element as it is shown in messages. -/
def shown (t : Tree) : Text :=
  shownNode t.kind t.tag t.text (t.entries.map fun e ↦ (e.1, e.2.text, e.2.tag))

end Tree

end ScriptDefs.Markup
