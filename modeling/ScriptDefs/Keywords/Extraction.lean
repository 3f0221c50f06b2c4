import ScriptDefs.Catalogue.Basic
import ScriptDefs.Diagnostic
import ScriptDefs.Traced

/-!
# Extraction results

A catalogue as it was found in a keyword document, with what was remarked on the way. Remarks are made
as the document is read; those made before an error stay.
-/

namespace ScriptDefs.Keywords

/-- A remark on a keyword document. -/
inductive Note where
  /-- The document has no section of this name. -/
  | noSection (name : Text)
  | diagnostic (d : Diagnostic)
  deriving DecidableEq, Repr

/-- The diagnostic that a remark is, if it is one. -/
def Note.diagnostic? : Note → Option Diagnostic
  | .diagnostic d => some d
  | .noSection _ => none

/-- The diagnostics among remarks, in order. -/
def diagnosticsIn (notes : List Note) : List Diagnostic := notes.filterMap Note.diagnostic?

/-- An argument, or the remark on an item that is none; without either the item is passed over. -/
abbrev ArgumentItem := Option (Catalogue.Argument ⊕ Diagnostic)

/-- The arguments among items. -/
def argumentsOf (items : List ArgumentItem) : List Catalogue.Argument :=
  items.filterMap fun
    | some (.inl a) => some a
    | _ => none

/-- The remarks among items. -/
def argumentDiagnostics (items : List ArgumentItem) : List Diagnostic :=
  items.filterMap fun
    | some (.inr d) => some d
    | _ => none

/-- The detail of a remark on an item that is no argument, given how the item is shown. -/
def malformedDetail (index : Nat) (shown : Text) : Text :=
  Text.ofString "(argument #" ++ Text.ofNat index ++ Text.ofString ": " ++ shown ++ [.scalar ')']

/-- The detail of a remark on a constant, given how its type and its text are shown. -/
def constantDetail (type raw : Text) : Text :=
  Text.ofString "(type " ++ type ++ Text.ofString ", value " ++ raw ++ [.scalar ')']

/-- The definitions of a section, read one by one. -/
def readEntries {ε α β : Type} (read : Text → β → Traced Diagnostic ε α) :
    List (Text × β) → Traced Diagnostic ε (List (Text × α))
  | [] => pure []
  | (name, d) :: rest => do
    let entry ← read name d
    return (name, entry) :: (← readEntries read rest)

/-- A section of a catalogue by name. A later definition replaces an earlier one of the same name. -/
def readSection {ε α β : Type} (read : Text → β → Traced Diagnostic ε α)
    (definitions : List (Text × β)) : Traced Note ε (Assoc Text α) := do
  return Assoc.ofList (← (readEntries read definitions).mapNotes .diagnostic)

end ScriptDefs.Keywords
