import ScriptDefs.Build
import ScriptDefs.Patch.File

/-!
# Failures of a run

Why a run fails, and which failures it reports. A failure that is not reported ends the program as it is:
it comes from bytes that are no text, from a number with too many digits, or from a value that has no place
in an output.
-/

namespace ScriptDefs

/-- The report of a file error. -/
def FileError.report? (e : FileError) : Option Text := if e.isRefusal then e.message? else none

/-- The report of a patch error. -/
def PatchError.report? (e : PatchError) : Option Text := e.message.toOption

/-- The report of a patch that does not apply. -/
def PatchFailure.report? : PatchFailure → Option Text
  | .refused e => e.report?
  | .undescribed _ => none

/-- The report of a patch file that cannot be read. -/
def Patch.FileError.report? : Patch.FileError → Option Text
  | .text (.file e) => e.report?
  | .patch e => e.report?
  | .text .notUtf8 | .digitLimit _ => none

/-- The report of an override that fails. -/
def OverrideError.report? : OverrideError → Option Text
  | .patch e => e.report?
  | .shape e => e.message.toOption

/-- The report of a catalogue that cannot be loaded. -/
def Keywords.LoadError.report? : Keywords.LoadError → Option Text
  | .unsupported suffix => some (Keywords.unsupportedMessage suffix)
  | .file e => e.report?
  | .markup e => if e.isOfForm then e.message? else none
  | .indented e => if e.isOfForm then e.message? else none
  | .data e => if e.isOfForm then e.message? else none
  | .override e => e.report?
  | .notUtf8 | .digitLimit _ => none

/-- The report of a declared type without a meaning. -/
def RemapError.report? (e : RemapError) : Option Text := e.message.toOption.bind id

/-- The report of a build that fails. -/
def BuildError.report? : BuildError → Option Text
  | .load e => e.report?
  | .remap e => e.report?
  | .override e => e.report?

namespace CommandLine

/-- Why a run fails. -/
inductive RunError where
  | patches (e : Patch.FileError)
  | build (e : BuildError)
  | render (e : RenderError)
  | write (e : FileError)
  /-- The output cannot be encoded. -/
  | unencodable
  deriving Repr

/-- The report of a run that fails. -/
def RunError.report? : RunError → Option Text
  | .patches e => e.report?
  | .build e => e.report?
  | .write e => e.report?
  | .render _ | .unencodable => none

end CommandLine

end ScriptDefs
