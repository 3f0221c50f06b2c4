import ScriptDefs.Yaml.Document
import ScriptDefs.Yaml.Merge
import ScriptDefs.Yaml.Scalar
import ScriptDefs.Yaml.Tokens

/-!
# The values of nodes

Every node has one value. A scalar is read where it is first asked for; a collection is empty at first and
gets its parts later, when all collections nearer to the root have theirs. So of several faults the one
nearest to the root is found, and a collection can be a part of itself.
-/

namespace ScriptDefs.Yaml

/-- A scalar as a key. A computed not-a-number differs from all others, so that its node belongs to it. -/
structure Key where
  value : Scalar
  node : Option NodeId := none
  deriving Repr

/-- Two keys are the same one. -/
def Key.same (a b : Key) : Bool := a.node = b.node && a.value.sameKey b.value

/-- The value of a node; its parts are given by their nodes. -/
inductive NodeValue where
  | scalar (key : Key)
  | list (items : List NodeId)
  | pairs (items : List (NodeId × NodeId))
  | set (members : List Key)
  | map (entries : List (Key × NodeId))
  deriving Repr

/-- The values of nodes in the order of their numbers, as far as they are known. -/
abbrev NodeValues := Array (Option NodeValue)

/-- The value of a node. -/
def NodeValues.value? (values : NodeValues) (id : NodeId) : Option NodeValue := values[id]?.join

/-- The values that have been found. -/
structure Valuation where
  nodes : Nodes
  values : NodeValues
  /-- Collections without their parts, the last first. -/
  waiting : List NodeId := []

/-- Finds values of nodes. -/
abbrev Valuing (α : Type) := StateT Valuation (Except Fault) α

namespace Valuing

/-- The text of a node that is asked for as a scalar. A mapping stands for the value of the key that says
so; a chain of mappings can be no longer than `fuel`. -/
def scalarText (nodes : Nodes) : Nat → NodeId → Except Fault Text
  | 0, _ => .error .endless
  | fuel + 1, id =>
    match (nodes.node id).content with
    | .scalar t => .ok t
    | .sequence _ => .error .malformed
    | .mapping entries =>
      match entries.find? (nodes.hasKey .value) with
      | some (_, value) => scalarText nodes fuel value
      | none => .error .malformed

/-- The value of a node that is a scalar. -/
def scalarKey (nodes : Nodes) (id : NodeId) : Except Fault Key := do
  let tag := (nodes.node id).tag
  let text ← scalarText nodes (nodes.size + 1) id
  if tag = .timestamp ∧ nodes.isMapping id then throw .notScalar
  let value ← scalarOf tag text
  return { value, node := if value = .float .nan ∧ !isNanWord text then some id else none }

/-- The empty collection of a type. -/
def emptyCollection? : Tag → Option NodeValue
  | .seq => some (.list [])
  | .omap | .pairs => some (.pairs [])
  | .set => some (.set [])
  | .map => some (.map [])
  | _ => none

/-- A node has a value. -/
def setValue (id : NodeId) (value : NodeValue) : Valuing Unit :=
  modify fun s ↦ { s with values := s.values.setIfInBounds id (some value) }

/-- The value of a node, a collection perhaps still without its parts. -/
def valueOf (id : NodeId) : Valuing NodeValue := do
  let s ← get
  match s.values.value? id, emptyCollection? (s.nodes.node id).tag with
  | some value, _ => return value
  | none, some empty =>
    set { s with waiting := id :: s.waiting }
    setValue id empty
    return empty
  | none, none =>
    let value := NodeValue.scalar (← scalarKey s.nodes id)
    setValue id value
    return value

/-- The value of a node as a key: collections are none. -/
def keyOf (id : NodeId) : Valuing Key := do
  match ← valueOf id with
  | .scalar key => return key
  | _ => throw .malformed

/-- A map with one more entry: at the place of a key that is the same, or else at the end. -/
def bindKey (key : Key) (value : NodeId) : List (Key × NodeId) → List (Key × NodeId)
  | [] => [(key, value)]
  | (k, v) :: rest =>
    if k.same key then (k, value) :: rest else (k, v) :: bindKey key value rest

/-- The entries of a mapping after its merges. -/
def mapEntries (id : NodeId) : Valuing (List (Key × NodeId)) := do
  let s ← get
  let nodes ← s.nodes.mergeInto id
  set { s with nodes }
  (nodes.entries id).foldlM (fun entries (k, v) ↦ do
    let key ← keyOf k
    let _ ← valueOf v
    return bindKey key v entries) []

/-- The only entry of a mapping. -/
def singleEntry (id : NodeId) : Valuing (NodeId × NodeId) := do
  match (← get).nodes.entries id with
  | [(k, v)] =>
    let _ ← valueOf k
    let _ ← valueOf v
    return (k, v)
  | _ => throw .malformed

/-- A collection gets its parts. -/
def fill (id : NodeId) : Valuing Unit := do
  let node := (← get).nodes.node id
  match node.tag, node.content with
  | .seq, .sequence items =>
    let _ ← items.mapM valueOf
    setValue id (.list items)
  | .omap, .sequence items => setValue id (.pairs (← items.mapM singleEntry))
  | .pairs, .sequence items => setValue id (.pairs (← items.mapM singleEntry))
  | .set, .mapping _ => setValue id (.set ((← mapEntries id).map (·.1)))
  | .map, .mapping _ => setValue id (.map (← mapEntries id))
  | _, _ => throw .malformed

/-- The collections at one distance from the root get their parts, and then those further away. -/
def fillFrom : Nat → List NodeId → Valuing Unit
  | 0, _ => pure ()
  | fuel + 1, level => do
    level.forM fill
    let s ← get
    set { s with waiting := [] }
    if !s.waiting.isEmpty then fillFrom fuel s.waiting.reverse

end Valuing

/-- The values of all nodes that belong to the root. -/
def Document.values (d : Document) : Except Fault NodeValues := do
  let start : Valuation := { nodes := d.nodes, values := .replicate d.nodes.size none }
  let (_, s) ← (Valuing.valueOf d.root).run start
  let (_, s) ← (Valuing.fillFrom (d.nodes.size + 1) s.waiting).run { s with waiting := [] }
  return s.values

/-! ## Plain data -/

/-- The kind of plain data that a value is. -/
def NodeValue.kind : NodeValue → DatumKind
  | .scalar key => key.value.kind
  | .list _ => .list
  | .pairs _ => .list
  | .set _ => .set
  | .map _ => .map

/-- The members of a set in the order in which they are shown: integers ascend, others stay as they come. -/
def orderedMembers (members : List Scalar) : List Scalar :=
  let integers := members.filterMap fun
    | .int n => some n
    | _ => none
  if integers.length = members.length then (integers.mergeSort (· ≤ ·)).map Scalar.int else members

/-- The plain data that is known of nodes that are no part of themselves. -/
abbrev KnownData := Array (Option Datum)

/-- The plain data of a node with the nodes in `around` around it, and those of them, or itself, that are
parts of it. A node that is a part of itself is labelled with its number. -/
def NodeValues.datumIn (values : NodeValues) :
    Nat → List NodeId → NodeId → StateM KnownData (Datum × List NodeId)
  | 0, _, _ => return (.null, [])
  | fuel + 1, around, id => do
    let value := (values.value? id).getD (.scalar ⟨.null, none⟩)
    if around.contains id then return (.again id value.kind, [id])
    if let some d := (← get)[id]?.join then return (d, [])
    let part := datumIn values fuel (id :: around)
    let (body, inside) ←
      match value with
      | .scalar key => pure (Datum.scalar key.value, [])
      | .set members => pure (Datum.set (orderedMembers (members.map (·.value))), [])
      | .list items => do
        let parts ← items.mapM part
        pure (Datum.list (parts.map (·.1)), parts.flatMap (·.2))
      | .pairs items => do
        let parts ← items.mapM fun (k, v) ↦ do return (← part k, ← part v)
        pure (Datum.list (parts.map fun (k, v) ↦ .pair k.1 v.1),
          parts.flatMap fun (k, v) ↦ k.2 ++ v.2)
      | .map entries => do
        let parts ← entries.mapM fun (k, v) ↦ do return (k.value, ← part v)
        pure (Datum.map (parts.map fun (k, v) ↦ (k, v.1)), parts.flatMap fun (_, v) ↦ v.2)
    if inside.isEmpty then
      modify fun known ↦ known.setIfInBounds id (some body)
      return (body, [])
    else return (.knot id body, inside.eraseDups.filter (· ≠ id))

/-- The plain data of a document. -/
def Document.toDatum (d : Document) : Except Fault Datum := do
  let values ← d.values
  let known : KnownData := .replicate d.nodes.size none
  return ((values.datumIn (d.nodes.size + 1) [] d.root).run known).1.1

/-- The plain data of a text; null if there is no document in it. -/
def read (t : Text) : Except Fault Datum := do
  let (ts, fault) := tokens t
  match ← Document.ofTokens ts fault with
  | none => return .null
  | some d => d.toDatum

end ScriptDefs.Yaml
