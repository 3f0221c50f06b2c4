import ScriptDefs.Data.Assoc
import ScriptDefs.Data.Basic

/-!
# Catalogues

The functions, constants, events and types of a keyword file. Declared types, costs and descriptions are
plain data: they are taken over as they are given, and checked where they are used.
-/

namespace ScriptDefs

namespace Catalogue

/-- An argument of a function or an event. -/
structure Argument where
  name : Text
  type : Datum
  desc : Datum
  deriving Repr

/-- A function; a null result type stands for no result. -/
structure Function where
  name : Text
  args : List Argument
  result : Datum
  desc : Datum
  energy : Datum
  sleep : Datum
  mustUse : Bool
  link : Option Text
  restricted : Bool := false
  deprecated : Bool := false
  godMode : Bool := false
  lindenExperience : Bool := false
  deriving Repr

/-- A constant with its text and the value that the text was cast to. -/
structure Constant where
  name : Text
  type : Datum
  valueRaw : Option Text
  value : Datum
  desc : Datum
  link : Text
  deprecated : Bool := false
  restricted : Bool := false
  deriving Repr

/-- An event. -/
structure Event where
  name : Text
  args : List Argument
  desc : Datum
  link : Text
  deprecated : Bool := false
  deriving Repr

/-- A type with its description. -/
structure TypeNote where
  name : Text
  desc : Datum
  deriving Repr

end Catalogue

/-- Four independent maps by name. -/
structure Catalogue where
  functions : Assoc Text Catalogue.Function := []
  constants : Assoc Text Catalogue.Constant := []
  events : Assoc Text Catalogue.Event := []
  types : Assoc Text Catalogue.TypeNote := []
  deriving Repr

end ScriptDefs
