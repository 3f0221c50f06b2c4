import ScriptDefs.Data.Assoc

/-!
# Marked-up documents

What elements of a marked-up document have in common. A map is an element that indexes its children: a
child that follows a key is found under the text that the key had when the child was appended.
-/

namespace ScriptDefs.Markup

/-- The two kinds of elements. -/
inductive NodeKind where
  | element
  | map
  deriving DecidableEq, Repr

/-- The tag of maps. -/
def mapTag : Text := "map"

/-- The tag of keys. -/
def keyTag : Text := "key"

/-- The tag of the outermost element of a document. -/
def rootTag : Text := "llsd"

/-- The kind of elements with a tag. -/
def kindOf (tag : Text) : NodeKind := if tag = mapTag then .map else .element

/-- A violation of the nesting of elements. -/
inductive StructureError where
  | appendToClosed (child parent : Text)
  | extraClose
  | unclosed (tags : List Text)
  | noRoot (tag : Text)
  deriving DecidableEq, Repr

/-- A tag between angle brackets. -/
def angled (tag : Text) : Text := .scalar '<' :: tag ++ [.scalar '>']

/-- The wording of a violation. -/
def StructureError.message : StructureError → Text
  | appendToClosed child parent =>
    ("Cannot append " : Text) ++ angled child ++ (" to closed " : Text) ++ angled parent
  | extraClose => "close() called more often than open()"
  | unclosed tags =>
    ("Unclosed elements at end of input: " : Text) ++ Text.joinWith ", " (tags.map angled)
  | noRoot tag => ("Document has no " : Text) ++ angled tag ++ (" element" : Text)

/-- The index of a node after a child has been appended at a position, given the tag and the text of the
child before. -/
def indexAfter (kind : NodeKind) (previous : Option (Text × Text)) (index : Assoc Text Nat)
    (position : Nat) : Assoc Text Nat :=
  match kind, previous with
  | .map, some (tag, text) => if tag = keyTag then index.put text position else index
  | _, _ => index

/-- An element as it is shown in messages: its tag and its text, or what its index holds, given for each
key the text and the tag of what is found under it. -/
def shownNode (kind : NodeKind) (tag text : Text) (entries : List (Text × Text × Text)) : Text :=
  match kind with
  | .element => .scalar '[' :: tag ++ .scalar ':' :: text ++ [.scalar ']']
  | .map =>
    let shown := entries.map fun e ↦
      e.1 ++ Text.ofString ": " ++ e.2.1 ++ Text.ofString " (" ++ e.2.2 ++ [CodePoint.scalar ')']
    .scalar '[' :: tag ++ Text.ofString ": " ++ Text.joinWith ", " shown ++ Text.ofString " ]"

/-- What happens in a document, in order. -/
inductive Event where
  | opening (tag : Text)
  | text (content : Text)
  | closing
  deriving DecidableEq, Repr

end ScriptDefs.Markup
