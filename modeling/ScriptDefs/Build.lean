import ScriptDefs.Keywords.Load
import ScriptDefs.Remap
import ScriptDefs.Render.Output

/-!
# Builds

A build leads from a keyword file to its catalogue and its typed document, both overridden by patches.
From a build every kind of output can be rendered.
-/

namespace ScriptDefs

/-- What a build depends on besides the keyword file. -/
structure BuildOptions where
  mode : RemapMode := .strict
  cataloguePatches : List Patch := []
  documentPatches : List Patch := []
  effects : Catalogue.EffectTable := []

/-- A catalogue with its typed document and the diagnostics on its source. -/
structure Build where
  catalogue : Catalogue
  document : Document
  diagnostics : List Diagnostic

/-- Why a build fails. -/
inductive BuildError where
  | load (e : Keywords.LoadError)
  | remap (e : RemapError)
  | override (e : OverrideError)
  deriving Repr

namespace Build

/-- The log entry after a catalogue has been remapped. -/
def remappedEntry (mode : RemapMode) (c : Catalogue) (functions : Nat) (d : Document) :
    LogEntry where
  level := .debug
  origin := "sluatypes.slua.remap"
  message := Text.ofString "Remapped " ++ Text.ofNat functions ++ Text.ofString " functions, " ++
    Text.ofNat c.constants.length ++ Text.ofString " constants and " ++
    Text.ofNat d.events.length ++ Text.ofString " events (" ++ mode.name ++
    Text.ofString " mode)"

/-- The typed document of a catalogue, with patches applied. -/
def remapped (options : BuildOptions) (builtins : Builtins) (c : Catalogue) :
    Traced LogEntry BuildError Document := do
  let functions ← Traced.ofExcept ((Remap.functions options.mode c).mapError .remap)
  let d ← Traced.ofExcept ((c.toDocument options.mode builtins).mapError .remap)
  Traced.note [remappedEntry options.mode c functions.length d]
  (loggedOverride options.documentPatches (d.overridden options.documentPatches)).mapError .override

/-- The log entry after a build. -/
def builtEntry (p : Path) (diagnostics : List Diagnostic) : LogEntry where
  level := .info
  origin := "sluatypes.pipeline.entrypoints"
  message := Text.ofString "Built " ++ p.toText ++ Text.ofString ": " ++
    Diagnostic.summary diagnostics

/-- The build of a keyword file. -/
def run (options : BuildOptions) (builtins : Builtins) (files : Files) (p : Path) :
    Traced LogEntry BuildError Build := do
  let l ← (Keywords.load options.effects options.cataloguePatches files p).mapError .load
  let document ← remapped options builtins l.catalogue
  Traced.note [builtEntry p l.diagnostics]
  return { catalogue := l.catalogue, document, diagnostics := l.diagnostics }

/-- The name of the kind that a text asks for, or the text if there is none. -/
def kindName (kind : Text) : Text :=
  match OutputKind.ofName? kind with
  | some k => k.name
  | none => kind

/-- The log entry before an output is rendered. -/
def renderingEntry (p : Path) (kind : Text) : LogEntry where
  level := .info
  origin := "sluatypes.pipeline.entrypoints"
  message := Text.ofString "Rendering " ++ kindName kind ++ Text.ofString " from " ++ p.toText

/-- The log entry for a kind that there is not. -/
def unknownKindEntry (kind : Text) : LogEntry where
  level := .warning
  origin := "sluatypes.render.dispatch"
  message := Text.ofString "Unknown output kind " ++ kind.quoted ++
    Text.ofString "; nothing rendered"

/-- The output of the kind that a text asks for; there is none if the text is the name of no kind. -/
def render (b : Build) (p : Path) (kind : Text) : Traced LogEntry RenderError (Option Text) := do
  Traced.note [renderingEntry p kind]
  match OutputKind.ofName? kind with
  | none =>
    Traced.note [unknownKindEntry kind]
    return none
  | some k => return some (← Traced.ofExcept (k.render b.catalogue b.document))

end Build

end ScriptDefs
