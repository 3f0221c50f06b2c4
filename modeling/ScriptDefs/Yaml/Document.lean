import ScriptDefs.Yaml.Fault
import ScriptDefs.Yaml.Node
import ScriptDefs.Yaml.Timestamp
import ScriptDefs.Yaml.Token

/-!
# The nodes of a document

Tokens make up at most one document. A node gets its number where it begins, so that an alias inside it can
stand for it already.
-/

namespace ScriptDefs.Yaml

/-- The type that a plain scalar has. -/
def impliedTag (t : Text) : Tag :=
  if t.isEmpty then .null
  else
    let t := dropFinalBreak t
    if trueWords.contains t || falseWords.contains t then .bool
    else if looksLikeFloat t then .float
    else if looksLikeInt t then .int
    else if t = Text.ofString "<<" then .merge
    else if nullWords.contains t then .null
    else if looksLikeTimestamp t then .timestamp
    else if t = Text.ofString "=" then .value
    else if ["!", "&", "*"].any fun w ↦ t = Text.ofString w then .other (Tag.commonStart ++ "yaml")
    else .str

/-- What the names of the handles mean. -/
abbrev Handles := List (Text × Text)

/-- The handles that need no directive. -/
def commonHandles : Handles := [("!", "!"), ("!!", Tag.commonStart)]

/-- How far the nodes of a document have been read. -/
structure NodeReading where
  tokens : List Token
  /-- Why there are no more tokens after these. -/
  fault : Fault
  nodes : Nodes := #[]
  /-- The nodes with anchors. -/
  anchors : List (Text × NodeId) := []

/-- Reads a part of a document from its tokens. -/
abbrev NodeReader (α : Type) := StateT NodeReading (Except Fault) α

namespace NodeReader

/-- Stops: the form of the document is broken. -/
def fail {α : Type} : NodeReader α := fun _ ↦ .error .malformed

/-- The next token, which stays. -/
def peek : NodeReader Token := fun s ↦
  match s.tokens with
  | t :: _ => .ok (t, s)
  | [] => .error s.fault

/-- The next token is left behind. -/
def skip : NodeReader Unit := fun s ↦ .ok ((), { s with tokens := s.tokens.tail })

/-- The next token is one of some. -/
def isNext (choices : List Token) : NodeReader Bool := do return choices.contains (← peek)

/-- The next token is left behind if it is a certain one; the result tells. -/
def skipIf (t : Token) : NodeReader Bool := do
  if ← isNext [t] then do
    skip
    return true
  else return false

/-- The next token is a certain one and is left behind. -/
def expect (t : Token) : NodeReader Unit := do if !(← skipIf t) then fail

/-- A node gets its number, and is the one with an anchor that no node has yet. -/
def beginNode (anchor : Option Text) : NodeReader NodeId := fun s ↦
  let id := s.nodes.size
  let s := { s with nodes := s.nodes.push .empty }
  match anchor with
  | none => .ok (id, s)
  | some name =>
    if s.anchors.any fun a ↦ a.1 = name then .error .malformed
    else .ok (id, { s with anchors := (name, id) :: s.anchors })

/-- A node that has begun is complete. -/
def setNode (id : NodeId) (n : Node) : NodeReader Unit := fun s ↦
  .ok ((), { s with nodes := s.nodes.setIfInBounds id n })

/-- A node without an anchor. -/
def addNode (n : Node) : NodeReader NodeId := fun s ↦
  .ok (s.nodes.size, { s with nodes := s.nodes.push n })

/-- The node with an anchor. -/
def aliased (name : Text) : NodeReader NodeId := fun s ↦
  match s.anchors.lookup name with
  | none => .error .malformed
  | some id => .ok (id, s)

end NodeReader

open NodeReader

/-- The tag that a token gives, by what its handle means. -/
def tagName (handles : Handles) (handle : Option Text) (suffix : Text) : NodeReader Text :=
  match handle with
  | none => return suffix
  | some h =>
    match handles.lookup h with
    | some start => return start ++ suffix
    | none => fail

/-- The properties of a node: an anchor and a tag in any order, each at most once. -/
def properties (handles : Handles) : NodeReader (Option Text × Option Text) := do
  match ← peek with
  | .anchor name =>
    skip
    match ← peek with
    | .tag handle suffix =>
      skip
      return (some name, some (← tagName handles handle suffix))
    | _ => return (some name, none)
  | .tag handle suffix =>
    skip
    match ← peek with
    | .anchor name =>
      skip
      return (some name, some (← tagName handles handle suffix))
    | _ => return (none, some (← tagName handles handle suffix))
  | _ => return (none, none)

/-- The tag asks for the implied type. -/
def isUnspecific (tag : Option Text) : Bool := tag.all (· = Text.ofString "!")

/-- The type of a collection. -/
def collectionTag (tag : Option Text) (implied : Tag) : Tag :=
  if isUnspecific tag then implied else (tag.map Tag.ofName).getD implied

/-- A scalar with its type. -/
def scalarNode (tag : Option Text) (content : Text) (plain : Bool) : Node :=
  let type :=
    match tag with
    | none => if plain then impliedTag content else .str
    | some name => if name = Text.ofString "!" then impliedTag content else .ofName name
  ⟨type, .scalar content⟩

/-- A sequence with its type. -/
def sequenceNode (tag : Option Text) (items : List NodeId) : Node :=
  ⟨collectionTag tag .seq, .sequence items⟩

/-- A mapping with its type. -/
def mappingNode (tag : Option Text) (entries : List (NodeId × NodeId)) : Node :=
  ⟨collectionTag tag .map, .mapping entries⟩

/-- Properties without a node stand for an empty scalar. -/
def emptyContent (tag : Option Text) (anchored : Bool) : NodeReader Node :=
  if anchored || tag.isSome then return scalarNode tag [] true else fail

/-- What may stand where a node is read. -/
structure Place where
  /-- Collections in block style. -/
  block : Bool
  /-- A sequence without an indentation of its own. -/
  indentless : Bool := false

mutual

/-- A node with its properties. -/
def node (handles : Handles) : Nat → Place → NodeReader NodeId
  | 0, _ => fail
  | fuel + 1, place => do
    match ← peek with
    | .alias name =>
      skip
      aliased name
    | _ =>
      let (anchor, tag) ← properties handles
      let _ ← peek
      let id ← beginNode anchor
      setNode id (← content handles fuel place tag anchor.isSome)
      return id

/-- A node after its properties. -/
def content (handles : Handles) : Nat → Place → Option Text → Bool → NodeReader Node
  | 0, _, _, _ => fail
  | fuel + 1, place, tag, anchored => do
    match ← peek with
    | .blockEntry =>
      if place.indentless then return sequenceNode tag (← indentlessItems handles fuel)
      else emptyContent tag anchored
    | .scalar t plain =>
      skip
      return scalarNode tag t plain
    | .flowSequence =>
      skip
      return sequenceNode tag (← flowItems handles fuel true)
    | .flowMapping =>
      skip
      return mappingNode tag (← flowEntries handles fuel true)
    | .blockSequence =>
      if place.block then
        skip
        return sequenceNode tag (← blockItems handles fuel)
      else emptyContent tag anchored
    | .blockMapping =>
      if place.block then
        skip
        return mappingNode tag (← blockEntries handles fuel)
      else emptyContent tag anchored
    | _ => emptyContent tag anchored

/-- A node, or an empty scalar in front of certain tokens. -/
def nodeUnless (handles : Handles) : Nat → Place → List Token → NodeReader NodeId
  | 0, _, _ => fail
  | fuel + 1, place, stops => do
    if ← isNext stops then addNode .empty else node handles fuel place

/-- The items of a block sequence, up to its end. -/
def blockItems (handles : Handles) : Nat → NodeReader (List NodeId)
  | 0 => fail
  | fuel + 1 => do
    if ← skipIf .blockEntry then
      let item ← nodeUnless handles fuel { block := true } [.blockEntry, .blockEnd]
      return item :: (← blockItems handles fuel)
    else
      expect .blockEnd
      return []

/-- The items of a sequence without an indentation of its own. -/
def indentlessItems (handles : Handles) : Nat → NodeReader (List NodeId)
  | 0 => fail
  | fuel + 1 => do
    if ← skipIf .blockEntry then
      let item ← nodeUnless handles fuel { block := true } [.blockEntry, .key, .value, .blockEnd]
      return item :: (← indentlessItems handles fuel)
    else return []

/-- The entries of a block mapping, up to its end. -/
def blockEntries (handles : Handles) : Nat → NodeReader (List (NodeId × NodeId))
  | 0 => fail
  | fuel + 1 => do
    let place : Place := { block := true, indentless := true }
    if ← skipIf .key then
      let key ← nodeUnless handles fuel place [.key, .value, .blockEnd]
      let value ←
        if ← skipIf .value then nodeUnless handles fuel place [.key, .value, .blockEnd]
        else addNode .empty
      return (key, value) :: (← blockEntries handles fuel)
    else
      expect .blockEnd
      return []

/-- The items of a flow sequence, up to its end. -/
def flowItems (handles : Handles) : Nat → Bool → NodeReader (List NodeId)
  | 0, _ => fail
  | fuel + 1, first => do
    let place : Place := { block := false }
    if ← skipIf .flowSequenceEnd then return []
    if !first then expect .flowEntry
    if ← skipIf .key then
      let key ← nodeUnless handles fuel place [.value, .flowEntry, .flowSequenceEnd]
      let value ←
        if ← skipIf .value then nodeUnless handles fuel place [.flowEntry, .flowSequenceEnd]
        else addNode .empty
      let pair ← addNode (mappingNode none [(key, value)])
      return pair :: (← flowItems handles fuel false)
    else if ← skipIf .flowSequenceEnd then return []
    else
      let item ← node handles fuel place
      return item :: (← flowItems handles fuel false)

/-- The entries of a flow mapping, up to its end. -/
def flowEntries (handles : Handles) : Nat → Bool → NodeReader (List (NodeId × NodeId))
  | 0, _ => fail
  | fuel + 1, first => do
    let place : Place := { block := false }
    if ← skipIf .flowMappingEnd then return []
    if !first then expect .flowEntry
    if ← skipIf .key then
      let key ← nodeUnless handles fuel place [.value, .flowEntry, .flowMappingEnd]
      let value ←
        if ← skipIf .value then nodeUnless handles fuel place [.flowEntry, .flowMappingEnd]
        else addNode .empty
      return (key, value) :: (← flowEntries handles fuel false)
    else if ← skipIf .flowMappingEnd then return []
    else
      let key ← node handles fuel place
      let value ← addNode .empty
      return (key, value) :: (← flowEntries handles fuel false)

end

/-- Directives in front of a document: at most one version, which is of the first series, and at most one
meaning for each handle. -/
def directives : Nat → Bool → Handles → NodeReader Handles
  | 0, _, _ => fail
  | fuel + 1, hasVersion, handles => do
    match ← peek with
    | .directive d =>
      skip
      match d with
      | .version major =>
        if hasVersion || major ≠ 1 then fail else directives fuel true handles
      | .tag handle start =>
        if handles.any fun h ↦ h.1 = handle then fail
        else directives fuel hasVersion ((handle, start) :: handles)
      | .other => directives fuel hasVersion handles
    | _ => return handles ++ commonHandles

/-- Marks of the end of a document. -/
def skipDocumentEnds : Nat → NodeReader Unit
  | 0 => fail
  | fuel + 1 => do if ← skipIf .documentEnd then skipDocumentEnds fuel

/-- The only document of the tokens, if there is one. -/
def document (fuel : Nat) : NodeReader (Option Document) := do
  let start ← peek
  if start = Token.streamEnd then return none
  let root ←
    if start = Token.documentStart || start.isDirective then do
      let handles ← directives fuel false []
      expect .documentStart
      let next ← peek
      if next.isDirective || [Token.documentStart, .documentEnd, .streamEnd].contains next then
        addNode .empty
      else node handles fuel { block := true }
    else node commonHandles fuel { block := true }
  skipDocumentEnds fuel
  if ← isNext [.streamEnd] then return some { nodes := (← get).nodes, root }
  else
    let _ ← directives fuel false []
    expect .documentStart
    fail

/-- The only document of some tokens, if there is one. Where the tokens end early, their fault is that of
the document. -/
def Document.ofTokens (tokens : List Token) (fault : Option Fault) :
    Except Fault (Option Document) :=
  (document (4 * tokens.length + 8)).run' { tokens, fault := fault.getD .malformed }

end ScriptDefs.Yaml
