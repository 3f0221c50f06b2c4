import ScriptDefs.Yaml.Tag

/-!
# Nodes of YAML documents

A document is a graph of scalars, sequences and mappings, each with its type. Its nodes have numbers: an
alias is the node with its anchor itself, even inside that node.
-/

namespace ScriptDefs.Yaml

/-- The number of a node in its document. -/
abbrev NodeId := Nat

/-- What a node holds. -/
inductive Content where
  | scalar (t : Text)
  | sequence (items : List NodeId)
  | mapping (entries : List (NodeId × NodeId))
  deriving DecidableEq, Repr

/-- A node. -/
structure Node where
  tag : Tag
  content : Content
  deriving DecidableEq, Repr

/-- The scalar that stands where a node is left out. -/
def Node.empty : Node := ⟨.null, .scalar []⟩

/-- The nodes of a document in the order of their numbers. -/
abbrev Nodes := Array Node

namespace Nodes

/-- The node with a number. -/
def node (nodes : Nodes) (id : NodeId) : Node := nodes[id]?.getD .empty

/-- The entries of a node that is a mapping. -/
def entries (nodes : Nodes) (id : NodeId) : List (NodeId × NodeId) :=
  match (nodes.node id).content with
  | .mapping entries => entries
  | _ => []

/-- The node is a mapping. -/
def isMapping (nodes : Nodes) (id : NodeId) : Bool :=
  match (nodes.node id).content with
  | .mapping _ => true
  | _ => false

/-- The mapping has other entries. -/
def setEntries (nodes : Nodes) (id : NodeId) (entries : List (NodeId × NodeId)) : Nodes :=
  nodes.modify id fun n ↦ { n with content := .mapping entries }

/-- The node has another type. -/
def setTag (nodes : Nodes) (id : NodeId) (tag : Tag) : Nodes :=
  nodes.modify id fun n ↦ { n with tag }

end Nodes

/-- A document: nodes, one of which all the others belong to. -/
structure Document where
  nodes : Nodes
  root : NodeId
  deriving Repr

end ScriptDefs.Yaml
