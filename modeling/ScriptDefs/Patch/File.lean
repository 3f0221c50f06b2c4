import ScriptDefs.Files
import ScriptDefs.Patch.Read

/-!
# Patch files

Patches are read from files of JSON records. The wording of an error names the file.
-/

namespace ScriptDefs.Patch

/-- Why patches cannot be read from a file. -/
inductive FileError where
  | text (e : Files.TextFault)
  | patch (e : PatchError)
  | digitLimit (e : DigitLimit)
  deriving Repr

/-- The patches of a file. -/
def load (files : Files) (p : Path) : Except Patch.FileError (List Patch) :=
  match files.readText p with
  | .error e => .error (.text e)
  | .ok t =>
    match listOfText t with
    | .ok patches => .ok patches
    | .error (.patch e) => .error (.patch (.inFile p.toText e))
    | .error (.digitLimit e) => .error (.digitLimit e)

end ScriptDefs.Patch
