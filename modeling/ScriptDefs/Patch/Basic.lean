import ScriptDefs.Data.Json.Printer

/-!
# Patches

A patch puts a value at a path. A path leads from the root of plain data through keys of objects and
indexes of arrays. The wording of the error of a patch that does not apply ends with the description of
the patch; a patch without a description fails with the reason why it has none.
-/

namespace ScriptDefs

/-- One step of a path. An index is a natural number: reading refuses negative ones
(`Segment.ofDatum`), and segments made without reading are left out. -/
inductive Segment where
  | key (k : Text)
  | index (n : Nat)
  deriving DecidableEq, Repr

/-- A value for the place that a path leads to. -/
structure Patch where
  path : List Segment
  value : Datum
  deriving Repr

/-- Why a patch has no place to go. -/
inductive PathFault where
  | emptyPath
  | missingKey (key : Text) (depth : Nat)
  | stepOutOfRange (index depth : Nat)
  | outOfRange (index : Nat)
  | notIndexable
  deriving DecidableEq, Repr

/-- Why patches cannot be read or applied. -/
inductive PatchError where
  | malformed
  | notAnArray
  | notARecord (found : Datum)
  | notAPath (record : Datum)
  | notASegment (found : Datum)
  | negativeIndex (n : Int)
  | noSegments
  /-- A patch has no place to go; its description ends the wording. -/
  | notApplied (fault : PathFault) (description : Text)
  | inFile (path : Text) (e : PatchError)
  deriving Repr

namespace Segment

/-- The segment as plain data. -/
def toDatum : Segment → Datum
  | .key k => .text k
  | .index n => .int n

end Segment

namespace Patch

/-- The patch as a record. -/
def toDatum (p : Patch) : Datum :=
  .object [("key", .list (p.path.map Segment.toDatum)), ("value", p.value)]

/-- The record of the patch as one line of JSON. -/
def describe (p : Patch) : Except Json.WriteError Text := Json.print Json.asciiLine p.toDatum

end Patch

namespace PathFault

/-- The wording of a fault. -/
def message : PathFault → Text
  | .emptyPath => "Patch path must not be empty"
  | .missingKey key depth =>
    ("Path key " : Text) ++ key.quoted ++ (" at depth " : Text) ++ Text.ofNat depth ++
      (" does not exist" : Text)
  | .stepOutOfRange index depth =>
    ("Path index " : Text) ++ Text.ofNat index ++ (" at depth " : Text) ++ Text.ofNat depth ++
      (" out of range" : Text)
  | .outOfRange index =>
    ("Path index " : Text) ++ Text.ofNat index ++ (" out of range" : Text)
  | .notIndexable => "Path hit non indexable point"

end PathFault

namespace PatchError

/-- A value as it is shown in the wording of an error. -/
def shown (d : Datum) : Except Json.WriteError Text :=
  match d.expression? with
  | .ok t => .ok t
  | .error e => .error (.digitLimit e)

/-- The wording of the error. -/
def message : PatchError → Except Json.WriteError Text
  | .malformed => .ok "Malformed patch JSON"
  | .notAnArray => .ok "Patch list must be a JSON array"
  | .notARecord found => do
    return ("Patch record must be an object with 'key' and 'value': " : Text) ++ (← shown found)
  | .notAPath record => do
    return ("Patch key must be a non-empty array: " : Text) ++ (← shown record)
  | .notASegment found => do
    return ("Patch path segment must be a string or integer, got " : Text) ++ (← shown found)
  | .negativeIndex n => do
    return ("Patch path index must not be negative, got " : Text) ++ (← Json.integerText n)
  | .noSegments => .ok "Patch path must not be empty"
  | .notApplied fault description => .ok (fault.message ++ (", patch " : Text) ++ description)
  | .inFile path e => do return path ++ (": " : Text) ++ (← e.message)

end PatchError

/-- How a patch fails that has no place to go: with an error, or, if it has no description, with the
reason for that. -/
inductive PatchFailure where
  | refused (e : PatchError)
  | undescribed (e : Json.WriteError)
  deriving Repr

/-- How the patch fails for a fault. -/
def Patch.failure (p : Patch) (fault : PathFault) : PatchFailure :=
  match p.describe with
  | .ok description => .refused (.notApplied fault description)
  | .error e => .undescribed e

end ScriptDefs
