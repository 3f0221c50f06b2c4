import ScriptDefs.Data.Assoc
import ScriptDefs.Patch.Basic

/-!
# Applying patches

Every segment of a path but the last has to lead to something that is there; the last one may name a
new key of an object. A patch that does not apply changes nothing. Its failure is worded at once, and so
comes down to that of its description where this cannot be written.
-/

namespace ScriptDefs

namespace Datum

/-- A value put where the last segment of a path leads. -/
def assign (value : Datum) : Segment → Datum → Except PathFault Datum
  | .key k, .map entries => .ok (.map (Assoc.put (.text k) value entries))
  | .index n, .list items =>
    if n < items.length then .ok (.list (items.set n value)) else .error (.outOfRange n)
  | _, _ => .error .notIndexable

/-- A value put where a path leads, `depth` steps having been taken before. -/
def assignFrom (value : Datum) (depth : Nat) :
    Segment → List Segment → Datum → Except PathFault Datum
  | last, [], d => assign value last d
  | .key k, next :: path, .map entries =>
    match Fields.get? entries k with
    | none => .error (.missingKey k depth)
    | some part => do
      let part' ← assignFrom value (depth + 1) next path part
      return .map (Assoc.put (.text k) part' entries)
  | .index n, next :: path, .list items =>
    match items[n]? with
    | none => .error (.stepOutOfRange n depth)
    | some part => do
      let part' ← assignFrom value (depth + 1) next path part
      return .list (items.set n part')
  | _, _ :: _, _ => .error .notIndexable

end Datum

namespace Patch

/-- The data with the value of a patch at its path. -/
def apply (p : Patch) (data : Datum) : Except PatchFailure Datum :=
  let result : Except PathFault Datum :=
    match p.path with
    | [] => .error .emptyPath
    | segment :: path => Datum.assignFrom p.value 0 segment path data
  match result with
  | .ok d => .ok d
  | .error fault => .error (p.failure fault)

/-- The number of steps on the longest path of some patches. -/
def reach (patches : List Patch) : Nat := patches.foldl (fun n p ↦ max n p.path.length) 0

/-- The data with patches applied one after the other. -/
def applyAll (patches : List Patch) (data : Datum) : Except PatchFailure Datum :=
  patches.foldlM (fun d p ↦ p.apply d) data

end Patch

end ScriptDefs
