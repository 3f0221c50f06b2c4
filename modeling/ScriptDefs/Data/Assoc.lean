import ScriptDefs.Text.Basic

/-!
# Association lists

Finite maps in the order in which their keys were first bound.
-/

namespace ScriptDefs

/-- A finite map as the list of its entries. -/
abbrev Assoc (α β : Type) := List (α × β)

namespace Assoc

variable {α β γ : Type} [DecidableEq α]

/-- A key bound to a value: at the place that the key has, or else at the end. -/
def put (key : α) (value : β) : Assoc α β → Assoc α β
  | [] => [(key, value)]
  | (k, v) :: rest => if k = key then (k, value) :: rest else (k, v) :: put key value rest

/-- The map that binds the keys of a list in turn. -/
def ofList (entries : List (α × β)) : Assoc α β :=
  entries.foldl (fun m e ↦ put e.1 e.2 m) []

/-- The first map with all bindings of the second put into it in turn. -/
def update (m n : Assoc α β) : Assoc α β := n.foldl (fun m e ↦ put e.1 e.2 m) m

/-- The keys in their order. -/
def keys (m : Assoc α β) : List α := m.map (·.1)

/-- The values in the order of their keys. -/
def values (m : Assoc α β) : List β := m.map (·.2)

/-- A function applied to every value. -/
def mapValues (f : β → γ) (m : Assoc α β) : Assoc α γ := m.map fun e ↦ (e.1, f e.2)

/-- Entries in the order of their keys. -/
def sorted (m : Assoc Text β) : Assoc Text β := m.mergeSort fun a b ↦ Text.le a.1 b.1

end Assoc

end ScriptDefs
