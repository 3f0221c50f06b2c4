import ScriptDefs.Proofs.Types.Rewording
import ScriptDefs.Remap

/-!
# Widening in loose mode

What loose mode does differently: an argument whose only type is a number in strict mode accepts all
numeric values. All else is the same in both modes, errors included.
-/

namespace ScriptDefs

/-! ## Widened definitions -/

/-- An argument in strict mode and the same one in loose mode. -/
inductive Variable.Widened : Variable → Variable → Prop where
  | number (name desc : Datum) (variadic optional : Bool) :
    Variable.Widened (.mk name desc [.simple .number] variadic optional)
      (.mk name desc [.simple .numeric] variadic optional)
  | other (v : Variable) (h : v.types ≠ [.simple .number]) : Variable.Widened v v

/-- Signatures that differ in widened arguments. -/
inductive Signature.Widened : Signature → Signature → Prop where
  | mk {args args' : List Variable} (results : List Variable)
    (h : ItemsRelated (fun _ ↦ Variable.Widened) 0 args args') :
    Signature.Widened (.mk args results) (.mk args' results)

/-- Functions that differ in widened arguments. -/
inductive Function.Widened : Function → Function → Prop where
  | mk (f : Function) {signatures signatures' : List Signature}
    (h : ItemsRelated (fun _ ↦ Signature.Widened) 0 signatures signatures') :
    Function.Widened { f with signatures := signatures } { f with signatures := signatures' }

/-- Events that differ in widened arguments. -/
inductive Event.Widened : Event → Event → Prop where
  | mk (e : Event) {args args' : List Variable}
    (h : ItemsRelated (fun _ ↦ Variable.Widened) 0 args args') :
    Event.Widened { e with args := args } { e with args := args' }

namespace Remap

/-- No declared type is a truth value. -/
theorem sourceType_ne_boolean {declared : Datum} : sourceType declared ≠ .ok .boolean := by
  unfold sourceType
  split
  · next t =>
    split
    · next image himage =>
      intro h
      cases h
      obtain ⟨before, after, htable, _⟩ := List.lookup_eq_some_iff.mp himage
      have hmem : (t, SimpleType.boolean) ∈ typeTable := by
        rw [htable]
        simp
      simp [typeTable] at hmem
    · simp
  · simp
  · simp

/-- The types of an argument in both modes. -/
theorem argumentTypes_widened (declared : Datum) :
    SameOutcome (fun types types' ↦
        types = [.simple .number] ∧ types' = [.simple .numeric] ∨
          types ≠ [.simple .number] ∧ types' = types)
      (argumentTypes .strict declared) (argumentTypes .loose declared) := by
  rw [argumentTypes, argumentTypes]
  refine .bind_same _ fun image himage ↦ .ok ?_
  cases image with
  | boolean => exact absurd himage sourceType_ne_boolean
  | number => exact .inl ⟨rfl, rfl⟩
  | _ => exact .inr ⟨by simp [widened], rfl⟩

theorem arguments_widened (args : List Catalogue.Argument) :
    SameOutcome (ItemsRelated (fun _ ↦ Variable.Widened) 0) (arguments .strict args)
      (arguments .loose args) := by
  refine sameOutcome_mapM (fun a ↦ ?_) args 0
  refine (argumentTypes_widened a.type).bind fun types types' h ↦ .ok ?_
  rcases h with ⟨rfl, rfl⟩ | ⟨h, rfl⟩
  · exact .number _ _ _ _
  · exact .other _ h

theorem function_widened (f : Catalogue.Function) :
    SameOutcome Function.Widened (function .strict f) (function .loose f) := by
  refine (arguments_widened f.args).bind fun args args' h ↦ ?_
  refine .bind_same _ fun results _ ↦ .ok ?_
  exact .mk { name := _, desc := _, link := _, signatures := [], energy := _, sleep := _
              mustUse := _, restricted := _, deprecated := _, godMode := _
              lindenExperience := _ } (.cons (.mk _ h) (.nil 1))

theorem event_widened (e : Catalogue.Event) :
    SameOutcome Event.Widened (event .strict e) (event .loose e) := by
  refine (arguments_widened e.args).bind fun args args' h ↦ .ok ?_
  exact .mk ⟨_, _, _, []⟩ h

/-- The functions of a catalogue in both modes. -/
theorem functions_widened (c : Catalogue) :
    SameOutcome (EntriesRelated fun _ ↦ Function.Widened) (functions .strict c)
      (functions .loose c) := by
  refine (sameOutcome_mapM function_widened c.functions.values 0).bind fun fs fs' h ↦ .ok ?_
  refine EntriesRelated.ofList (.of_items (i := 0) (h.map fun _ f f' hf ↦ ?_))
  cases hf with
  | mk f h => exact ⟨rfl, .mk f h⟩

/-- The events of a catalogue in both modes. -/
theorem events_widened (c : Catalogue) :
    SameOutcome (EntriesRelated fun _ ↦ Event.Widened) (events .strict c) (events .loose c) := by
  have hpairs := sameOutcome_mapM (R := fun e e' ↦ e.1 = e'.1 ∧ Event.Widened e.2 e'.2)
    (f := fun e : Text × Catalogue.Event ↦ do return (e.1, ← event .strict e.2))
    (g := fun e ↦ do return (e.1, ← event .loose e.2))
    (fun e ↦ (event_widened e.2).bind fun _ _ h ↦ .ok ⟨rfl, h⟩)
    (c.events.sorted.filter fun e ↦ !skippedStart.isPrefixOf e.1) 0
  exact hpairs.mono fun _ _ h ↦ .of_items h

end Remap

end ScriptDefs
