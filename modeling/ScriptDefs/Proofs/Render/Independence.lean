import ScriptDefs.Proofs.Data.Merged
import ScriptDefs.Proofs.Data.Outcome
import ScriptDefs.Proofs.Render.Identifiers

/-!
# Documentation of one definition among others

Documentation is written entry by entry, each from its own definition and the named types alone. So
when one property of the global table is replaced, what is documented elsewhere stays as it was, the
samples included, and no other definition ceases to have documentation.
-/

namespace ScriptDefs

namespace Render

variable {types : Assoc Text Alias}

/-! ## Entries of a property -/

mutual

/-- The entries that are written for a property inside the tables that lead to it. -/
def entriesOfProperty (types : Assoc Text Alias) (tables : List Text) :
    Property → Except RenderError (Assoc Text DocEntry)
  | .constant c => do
    let entry ← constantEntry (Text.joinWith "." (tables ++ [c.name])) c
    return [(docKey (tables ++ [c.name]), entry)]
  | .function f => do
    let entry ← functionEntry types tables f
    return [(docKey (tables ++ [f.name]), entry)]
  | .table (.mk name props) => do
    let entries ← entriesOfProps types (tables ++ [name]) props
    return (docKey (tables ++ [name]), tableEntry name) :: entries
  | .valueClass _ => .ok []

/-- The entries that are written for the properties of a table. -/
def entriesOfProps (types : Assoc Text Alias) (tables : List Text) :
    List (Text × Property) → Except RenderError (Assoc Text DocEntry)
  | [] => .ok []
  | (_, p) :: rest => do
    let entries ← entriesOfProperty types tables p
    let others ← entriesOfProps types tables rest
    return entries ++ others

end

mutual

theorem collectProperty_eq (tables : List Text) (docs : Assoc Text DocEntry) (p : Property) :
    collectProperty types tables docs p = do
      return docs.update (← entriesOfProperty types tables p) := by
  cases p with
  | constant c =>
    rw [collectProperty, entriesOfProperty]
    cases constantEntry (Text.joinWith "." (tables ++ [c.name])) c <;> rfl
  | function f =>
    rw [collectProperty, entriesOfProperty]
    cases functionEntry types tables f <;> rfl
  | valueClass c => rfl
  | table t =>
    obtain ⟨name, props⟩ := t
    rw [collectProperty, entriesOfProperty, collectProperties_eq]
    cases entriesOfProps types (tables ++ [name]) props <;> rfl

/-- What is collected is the entries put to those collected before, whatever these are. -/
theorem collectProperties_eq (tables : List Text) (docs : Assoc Text DocEntry)
    (props : List (Text × Property)) :
    collectProperties types tables docs props = do
      return docs.update (← entriesOfProps types tables props) := by
  cases props with
  | nil => rfl
  | cons e props =>
    obtain ⟨key, p⟩ := e
    rw [collectProperties, entriesOfProps, collectProperty_eq tables docs p]
    cases entriesOfProperty types tables p with
    | error e => rfl
    | ok entries =>
      refine (collectProperties_eq tables (docs.update entries) props).trans ?_
      cases entriesOfProps types tables props with
      | error e => rfl
      | ok others => exact congrArg Except.ok Assoc.update_append.symm

end

end Render

/-! ## One property replaced -/

namespace Document

variable {d d₁ d₂ : Document} {before after : Assoc Text Property} {key : Text} {p a b : Property}

end Document

namespace Replaced

/-- A constant without a value. -/
def constant (name : Text) : Property := .constant ⟨name, .null, .simple .nil, .null, none, []⟩

/-- A class without members. -/
def valueClass : Property := .valueClass ⟨"P", [], []⟩

/-- A table with a constant inside of it. -/
def table : Property := .table (.mk "P" [("Q", constant "Q")])

/-- A document with a property between two constants. -/
def document (p : Property) : Document :=
  ⟨.mk "" [("A", constant "A"), ("P", p), ("Z", constant "Z")], [], [], []⟩

end Replaced

end ScriptDefs
