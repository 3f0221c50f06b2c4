import ScriptDefs.CommandLine.Arguments
import ScriptDefs.CommandLine.Report
import ScriptDefs.Types.Builtin.Standard

/-!
# Runs

A run reads the overrides, makes the build, renders the output and hands it over. What it does to the
files and to the streams is its outcome, so that a run itself is a function of the files that it finds.
-/

namespace ScriptDefs.CommandLine

/-- What a run leaves behind. -/
structure Outcome where
  result : Except RunError Unit := .ok ()
  /-- The text on standard output. -/
  output : Text := []
  /-- The entries of the log that are shown. -/
  log : List LogEntry := []
  files : Files

/-- The patches of a file, if one is given. -/
def overrides (files : Files) : Option Path → Except RunError (List Patch)
  | none => .ok []
  | some p => (Patch.load files p).mapError .patches

/-- The build that is asked for. -/
def buildOptions (files : Files) (a : Arguments) : Except RunError BuildOptions := do
  let cataloguePatches ← overrides files a.catalogueOverrides
  let documentPatches ← overrides files a.documentOverrides
  return { mode := if a.loose then .loose else .strict, cataloguePatches, documentPatches }

/-- The part of the program that reports on runs. -/
def logOrigin : Text := "sluatypes"

/-- The log entry before a build. -/
def startEntry (a : Arguments) (mode : RemapMode) : LogEntry where
  level := .debug
  origin := logOrigin
  message := Text.ofString "Generating " ++ a.kind ++ Text.ofString " from " ++
    a.input.toText ++ Text.ofString " (" ++ mode.name ++ Text.ofString " mode)"

/-- The output that is asked for; there is none of a kind that there is not. -/
def rendering (files : Files) (a : Arguments) : Traced LogEntry RunError (Option Text) := do
  let options ← Traced.ofExcept (buildOptions files a)
  Traced.note [startEntry a options.mode]
  let b ← (Build.run options Builtins.standard files a.input).mapError .build
  (b.render a.input a.kind).mapError .render

/-- The log entry after an output has been written. -/
def wroteEntry (kind : Text) (p : Path) : LogEntry where
  level := .info
  origin := logOrigin
  message := Text.ofString "Wrote " ++ Build.kindName kind ++ Text.ofString " -> " ++ p.toText

/-- An output handed over to a file. The file is emptied before the output is encoded. -/
def writeOutput (files : Files) (kind : Text) (p : Path) (t : Text) : Outcome :=
  match files.write p (t.toUtf8?.getD []) with
  | .error e => { result := .error (.write e), files }
  | .ok written =>
    if t.isEncodable then { log := [wroteEntry kind p], files := written }
    else { result := .error .unencodable, files := written }

/-- An output handed over. -/
def deliver (files : Files) (a : Arguments) (t : Text) : Outcome :=
  match a.out with
  | some p => writeOutput files a.kind p t
  | none =>
    if t.isEncodable then { output := t, files } else { result := .error .unencodable, files }

/-- What a run does after its output has been rendered, or could not be. -/
def conclude (files : Files) (a : Arguments) : Except RunError (Option Text) → Outcome
  | .error e => { result := .error e, files }
  | .ok none => { files }
  | .ok (some t) => deliver files a t

/-- The entries of the log that are shown: all of them in a verbose run, otherwise the important ones. -/
def shownEntries (verbose : Bool) (log : List LogEntry) : List LogEntry :=
  if verbose then log else log.filter fun e ↦ e.level.isImportant

/-- A run on the files that it finds. -/
def run (files : Files) (a : Arguments) : Outcome :=
  let r := rendering files a
  let o := conclude files a r.result
  { o with log := shownEntries a.verbose (r.notes ++ o.log) }

/-- The run that a call asks for. -/
def call (files : Files) (arguments : List Text) : Except Stop Outcome :=
  (parse arguments).map (run files)

namespace Outcome

/-- The report of a run that fails, if it is reported. -/
def report? (o : Outcome) : Option Text :=
  match o.result with
  | .ok _ => none
  | .error e => e.report?

/-- The line of a report. -/
def reportLine (report : Text) : Text :=
  Text.ofString "Failed to generate: " ++ report ++ [.scalar '\n']

/-- The text on the stream of messages: the log, and at its end what is reported. -/
def messages (o : Outcome) : Text :=
  (o.log.flatMap fun e ↦ e.line ++ [.scalar '\n']) ++ (o.report?.map reportLine).getD []

/-- The status that the program ends with. -/
def status (o : Outcome) : Nat :=
  match o.result with
  | .ok _ => 0
  | .error _ => 1

end Outcome

end ScriptDefs.CommandLine
