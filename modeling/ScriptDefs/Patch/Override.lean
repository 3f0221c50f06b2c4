import ScriptDefs.Data.Field
import ScriptDefs.Log
import ScriptDefs.Patch.Apply
import ScriptDefs.Traced

/-!
# Overrides

A model is overridden through its plain form: written out, patched and read back. Without patches it
stays as it is.
-/

namespace ScriptDefs

/-- Why a model cannot be overridden. -/
inductive OverrideError where
  | patch (e : PatchFailure)
  | shape (e : ShapeError)
  deriving Repr

/-- A model with patches applied to its plain form. -/
def override {α : Type} (write : α → Datum) (read : Datum → Except ShapeError α)
    (patches : List Patch) (a : α) : Except OverrideError α :=
  if patches.isEmpty then .ok a
  else
    match Patch.applyAll patches (write a) with
    | .error e => .error (.patch e)
    | .ok d =>
      match read d with
      | .error e => .error (.shape e)
      | .ok b => .ok b

/-- The log of an override: once all patches have found their place, their number. -/
def overrideLog {α : Type} (patches : List Patch) (outcome : Except OverrideError α) :
    List LogEntry :=
  let applied : LogEntry :=
    { level := .debug
      origin := "sluatypes.patch.apply"
      message := Text.ofString "Applied " ++ Text.ofNat patches.length ++
        Text.ofString " patch(es)" }
  match outcome with
  | .error (.patch _) => []
  | _ => if patches.isEmpty then [] else [applied]

/-- An override with its log. -/
def loggedOverride {α : Type} (patches : List Patch) (outcome : Except OverrideError α) :
    Traced LogEntry OverrideError α :=
  ⟨overrideLog patches outcome, outcome⟩

end ScriptDefs
