import ScriptDefs.CommandLine.Run

/-!
# The program

The outer layer: it looks at the files that a call names, runs it, and carries out what the run leaves
behind.
-/

namespace ScriptDefs.Program

/-- What stands at a place of the file system. What cannot be looked at counts as missing. -/
def lookAt (place : Path) : IO (Option FileEntry) := do
  match Text.toString? place.toText with
  | none => return none
  | some name =>
    try
      let found ← IO.FS.realPath name
      if ← found.isDir then return some .directory
      return some (.file (← IO.FS.readBinFile name).toList)
    catch _ => return none

/-- The paths that arguments name. -/
def namedPaths (a : CommandLine.Arguments) : List Path :=
  a.input :: [a.catalogueOverrides, a.documentOverrides, a.out].filterMap id

/-- The files that a run can come across. -/
def lookAround (a : CommandLine.Arguments) : IO Files := do
  let places := (namedPaths a).flatMap fun p ↦ Files.places { root := p.root } p.names
  let entries ← places.mapM fun place ↦ do
    return (← lookAt place).map fun entry ↦ (place, entry)
  return Assoc.ofList (entries.filterMap id)

/-- The files that a run has changed. -/
def changed (before after : Files) : List (Path × List UInt8) :=
  after.filterMap fun
    | (p, .file content) =>
      if before.lookup p = some (.file content) then none else some (p, content)
    | (_, .directory) => none

/-- Writes a file. -/
def writeFile (p : Path) (content : List UInt8) : IO Unit :=
  match Text.toString? p.toText with
  | some name => IO.FS.writeBinFile name (ByteArray.mk content.toArray)
  | none => pure ()

/-- Carries out a call and gives the status to end with. -/
def carryOut (arguments : List Text) : IO Nat := do
  match CommandLine.parse arguments with
  | .error stop => return stop.status
  | .ok a =>
    let files ← lookAround a
    let o := CommandLine.run files a
    for (p, content) in changed files o.files do
      writeFile p content
    IO.print ((Text.toString? o.output).getD "")
    IO.eprint ((Text.toString? o.messages).getD "")
    return o.status

end ScriptDefs.Program

/-- The program. -/
def main (arguments : List String) : IO UInt32 := do
  return (← ScriptDefs.Program.carryOut (arguments.map ScriptDefs.Text.ofString)).toUInt32
