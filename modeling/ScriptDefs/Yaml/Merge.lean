import ScriptDefs.Yaml.Fault
import ScriptDefs.Yaml.Node

/-!
# Merging of mappings

A merge key brings the entries of another mapping, or of several, into the mapping around it. They come in
front of its own entries, so that these win; of several mappings the first comes last. The nodes of a
document change by that, and an alias then stands for the changed mapping.
-/

namespace ScriptDefs.Yaml

namespace Nodes

/-- The key of an entry has a type. -/
def hasKey (nodes : Nodes) (tag : Tag) (entry : NodeId × NodeId) : Bool :=
  (nodes.node entry.1).tag = tag

/-- Keys that would stand for the mapping around them are texts. -/
def withTextKeys (nodes : Nodes) (entries : List (NodeId × NodeId)) : Nodes :=
  (entries.filter (nodes.hasKey .value)).foldl (fun nodes e ↦ nodes.setTag e.1 .str) nodes

/-- The number of entries of all mappings. -/
def entryCount (nodes : Nodes) : Nat :=
  nodes.foldl (fun n node ↦
    match node.content with
    | .mapping entries => n + entries.length
    | _ => n) 0

/-- A mapping takes what its merge keys bring, of the entries from `place` on; `merged` is what earlier ones
have brought. A merge key is gone before its value is merged itself, which bounds the steps. -/
def mergeFrom : Nat → NodeId → Nat → List (NodeId × NodeId) → Nodes → Except Fault Nodes
  | 0, _, _, _, _ => .error .malformed
  | fuel + 1, id, place, merged, nodes =>
    let entries := nodes.entries id
    let before := (entries.drop place).takeWhile fun e ↦ !nodes.hasKey .merge e
    let place := place + before.length
    let nodes := nodes.withTextKeys before
    match entries[place]? with
    | none => .ok (nodes.setEntries id (merged ++ entries))
    | some (_, source) => do
      let nodes := nodes.setEntries id (entries.eraseIdx place)
      match (nodes.node source).content with
      | .mapping _ =>
        let nodes ← mergeFrom fuel source 0 [] nodes
        mergeFrom fuel id place (merged ++ nodes.entries source) nodes
      | .sequence items =>
        let (parts, nodes) ← items.foldlM (fun (parts, nodes) item ↦
          if nodes.isMapping item then do
            let nodes ← mergeFrom fuel item 0 [] nodes
            return (nodes.entries item :: parts, nodes)
          else throw .malformed) ([], nodes)
        mergeFrom fuel id place (merged ++ parts.flatten) nodes
      | .scalar _ => throw .malformed

/-- The nodes after the merges into a mapping. -/
def mergeInto (nodes : Nodes) (id : NodeId) : Except Fault Nodes :=
  if (nodes.entries id).any (nodes.hasKey .merge) then
    mergeFrom (nodes.entryCount + 1) id 0 [] nodes
  else .ok (nodes.withTextKeys (nodes.entries id))

end Nodes

end ScriptDefs.Yaml
