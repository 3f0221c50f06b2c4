import ScriptDefs.Data.Json.Reader
import ScriptDefs.Patch.Basic

/-!
# Patch records

Patches are written as an array of objects with a path under `key` and a value under `value`.
-/

namespace ScriptDefs

namespace Segment

/-- The segment that plain data stands for: a text is a key, a natural number an index. -/
def ofDatum : Datum → Except PatchError Segment
  | .text k => .ok (.key k)
  | .int (.ofNat n) => .ok (.index n)
  | .int (.negSucc n) => .error (.negativeIndex (.negSucc n))
  | d => .error (.notASegment d)

end Segment

namespace Patch

/-- The patch with a path given as plain data, which must not be empty. -/
def make (path : List Datum) (value : Datum) : Except PatchError Patch := do
  match ← path.mapM Segment.ofDatum with
  | [] => .error .noSegments
  | segments => return ⟨segments, value⟩

/-- The patch that a record stands for. -/
def ofDatum (record : Datum) : Except PatchError Patch :=
  match record with
  | .map entries =>
    match Fields.get? entries "key", Fields.get? entries "value" with
    | some (.list (d :: ds)), some value => do
      return ⟨← (d :: ds).mapM Segment.ofDatum, value⟩
    | some _, some _ => .error (.notAPath record)
    | _, _ => .error (.notARecord record)
  | _ => .error (.notARecord record)

/-- The patches that an array of records stands for. -/
def listOfDatum : Datum → Except PatchError (List Patch)
  | .list records => records.mapM ofDatum
  | _ => .error .notAnArray

/-- A list of patches cannot be read from a text. -/
inductive TextError where
  | patch (e : PatchError)
  | digitLimit (e : DigitLimit)
  deriving Repr

/-- The patches of a JSON text. -/
def listOfText (t : Text) : Except TextError (List Patch) :=
  match Json.read t with
  | .error .malformed => .error (.patch .malformed)
  | .error (.digitLimit e) => .error (.digitLimit e)
  | .ok d =>
    match listOfDatum d with
    | .ok patches => .ok patches
    | .error e => .error (.patch e)

end Patch

end ScriptDefs
