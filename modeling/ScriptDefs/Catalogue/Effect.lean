import ScriptDefs.Data.Basic

/-!
# Side effects

Whether a call of a function has side effects is guessed from its name, unless a table says so. A
function without side effects is called for its result only.
-/

namespace ScriptDefs

namespace Text

/-- Where a text first occurs in another. -/
def firstIndex? (part : Text) : Text → Option Nat
  | [] => if part.isEmpty then some 0 else none
  | c :: t => if part.isPrefixOf (c :: t) then some 0 else (firstIndex? part t).map (· + 1)

end Text

namespace Catalogue

/-- Names that have side effects though no keyword tells. -/
def knownEffects : List Text :=
  List.map Text.ofString [
    "llForceMouselook", "llGetNextEmail", "llGroundRepel", "llDeleteCharacter", "llHttpResponse",
    "llMinEventDelay", "llModifLand", "llNavigateTo", "llOffsetTexture",
    "llParcelMediaCommandList", "llPursue", "llPushObject", "llWhisper", "llShout",
    "llScaleByFactor", "llScaleTexture", "llScriptProfiler", "llSitOnLink", "llSleep",
    "llStartAnimation", "llStartObjectAnimation", "llDialog", "llTextBox", "llUnSit",
    "llVolumeDetect", "llWanderWithin"
  ]

/-- Names that have no side effects though a keyword occurs in them. -/
def knownEffectless : List Text :=
  ["llAvatarOnLinkSitTarget", "llAvatarOnSitTarget", "llGetExperienceErrorMessage",
    "llGetEnvironment"]

/-- Words that tell of side effects when they first occur after the start of a name. -/
def effectKeywords : List Text :=
  List.map Text.ofString [
    "Set", "Say", "Request", "Write", "Reset", "Particle", "Add", "Adjust", "Apply", "AttachTo",
    "Clear", "Sound", "Notecard", "Give", "KeyValue", "LinksetDataDelete", "LinksetDataWrite",
    "Target", "Listen", "Load", "Manage", "Map", "Message", "Pass", "Release", "Remove", "Return",
    "Environment", "RezObject", "RezAt", "Rotate", "LookAt", "Sensor", "Stop", "Controls",
    "Teleport", "Transfer", "Trigger", "Update"
  ]

/-- A keyword first occurs after the start of a name. -/
def hasKeyword (name keyword : Text) : Bool :=
  match Text.firstIndex? keyword name with
  | some (_ + 1) => true
  | _ => false

/-- The guess from the name alone. -/
def seemsEffectful (name : Text) : Bool :=
  !knownEffectless.contains name &&
    (effectKeywords.any (hasKeyword name) || knownEffects.contains name)

/-- A table of side effects by function name. -/
abbrev EffectTable := List (Text × Datum)

/-- What the table says of a name, or else the guess. -/
def effectOf (table : EffectTable) (name : Text) : Datum :=
  (table.lookup name).getD (.bool (seemsEffectful name))

end Catalogue

end ScriptDefs
