/-!
# Results with remarks

A result together with what was remarked on the way to it. The remarks stay when there is no result.
-/

namespace ScriptDefs

/-- A result, or an error, after some remarks. -/
structure Traced (ι ε α : Type) where
  notes : List ι
  result : Except ε α

namespace Traced

variable {ι κ ε φ α β : Type}

/-- A result without remarks. -/
def ofExcept (x : Except ε α) : Traced ι ε α := ⟨[], x⟩

/-- Remarks alone. -/
def note (notes : List ι) : Traced ι ε Unit := ⟨notes, .ok ()⟩

/-- An error. -/
def fail (e : ε) : Traced ι ε α := ⟨[], .error e⟩

/-- A computation on a result. Its remarks follow those that led to the result. -/
def bind (x : Traced ι ε α) (f : α → Traced ι ε β) : Traced ι ε β :=
  match x.result with
  | .error e => ⟨x.notes, .error e⟩
  | .ok a => ⟨x.notes ++ (f a).notes, (f a).result⟩

instance : Monad (Traced ι ε) where
  pure a := ⟨[], .ok a⟩
  bind := bind

/-- Remarks of another kind. -/
def mapNotes (f : ι → κ) (x : Traced ι ε α) : Traced κ ε α := ⟨x.notes.map f, x.result⟩

/-- An error of another kind. -/
def mapError (f : ε → φ) (x : Traced ι ε α) : Traced ι φ α := ⟨x.notes, x.result.mapError f⟩

end Traced

end ScriptDefs
