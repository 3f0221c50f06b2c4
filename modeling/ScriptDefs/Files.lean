import ScriptDefs.Data.Assoc
import ScriptDefs.Path
import ScriptDefs.Text.Decoding
import ScriptDefs.Text.Quoted

/-!
# Files

The files that a run can read and write. A directory that holds a file is known; writing makes no
directories.
-/

namespace ScriptDefs

/-- What stands at a path. -/
inductive FileEntry where
  | file (content : List UInt8)
  | directory
  deriving DecidableEq, Repr

/-- What stands at the paths of a run. -/
abbrev Files := Assoc Path FileEntry

/-- Why a file cannot be opened. -/
inductive FileFault where
  | notFound
  | isDirectory
  | notDirectory
  | nameTooLong
  /-- No file has such a name: it holds a null character. -/
  | nullInName
  /-- No file has such a name: it has no bytes. -/
  | nameWithoutBytes
  deriving DecidableEq, Repr

/-- A file cannot be opened. -/
structure FileError where
  fault : FileFault
  path : Path
  deriving DecidableEq, Repr

namespace FileError

/-- The file system refuses to open the file, and it is not just the name that no file has. -/
def isRefusal (e : FileError) : Bool :=
  match e.fault with
  | .notFound | .isDirectory | .notDirectory | .nameTooLong => true
  | .nullInName | .nameWithoutBytes => false

/-- The wording of a refusal. -/
def refusal (number text : String) (p : Path) : Text :=
  Text.ofString "[Errno " ++ Text.ofString number ++ Text.ofString "] " ++ Text.ofString text ++
    Text.ofString ": " ++ p.toText.quoted

/-- The wording of the error, where there is one. -/
def message? (e : FileError) : Option Text :=
  match e.fault with
  | .notFound => some (refusal "2" "No such file or directory" e.path)
  | .isDirectory => some (refusal "21" "Is a directory" e.path)
  | .notDirectory => some (refusal "20" "Not a directory" e.path)
  | .nameTooLong => some (refusal "36" "File name too long" e.path)
  | .nullInName => some "embedded null byte"
  | .nameWithoutBytes => none

end FileError

namespace Files

/-- The directories that hold what a path names. -/
def directoriesOf (p : Path) : List Path :=
  (List.range p.names.length).tail.map fun n ↦ { p with names := p.names.take n }

/-- The files with one more, and with the directories that hold it. -/
def add (files : Files) (p : Path) (content : List UInt8) : Files :=
  (Assoc.update files ((directoriesOf p).map fun d ↦ (d, .directory))).put p (.file content)

/-- The name that leads back. -/
def backName : Text := Text.ofString ".."

/-- What stands at a path. The working directory, the directories around it and the roots are
directories. -/
def entry? (files : Files) (p : Path) : Option FileEntry :=
  if p.names.all (· = backName) then some .directory else files.lookup p

/-- The place that a name in a directory leads to. -/
def step (p : Path) (n : Text) : Path :=
  if n ≠ backName then { p with names := p.names ++ [n] }
  else if p.names.all (· = backName) then
    if p.root.isEmpty then { p with names := p.names ++ [n] } else p
  else p.parent

/-- The places that names lead through from another, the last one being where they lead to. -/
def places (p : Path) : List Text → List Path
  | [] => []
  | n :: rest => step p n :: places (step p n) rest

/-- The names of a directory can be looked up. -/
def enter (files : Files) (p : Path) : Except FileFault Unit :=
  match files.entry? p with
  | some .directory => .ok ()
  | some (.file _) => .error .notDirectory
  | none => .error .notFound

/-- The number of bytes of a name. A code point for a byte that is no text counts as this byte. -/
def byteCount (t : Text) : Nat :=
  (t.map fun
    | .scalar c => c.utf8Size
    | .surrogate _ => 1).foldr (· + ·) 0

/-- The most bytes of a single name. -/
def nameLimit : Nat := 255

/-- The most bytes of a whole path. -/
def pathLimit : Nat := 4095

/-- The place that names lead to from another. -/
def follow (files : Files) (p : Path) : List Text → Except FileFault Path
  | [] => .ok p
  | n :: rest => do
    files.enter p
    if nameLimit < byteCount n then throw .nameTooLong
    files.follow (step p n) rest

/-- The name of a file is made of bytes; code points for bytes that are no text count as these. -/
def hasBytes (t : Text) : Bool :=
  t.all fun
    | .scalar _ => true
    | .surrogate k => 0x480 ≤ k.val && k.val ≤ 0x4FF

/-- The place that a path leads to. -/
def locate (files : Files) (p : Path) : Except FileFault Path :=
  if !hasBytes p.toText then .error .nameWithoutBytes
  else if p.toText.contains (.scalar '\x00') then .error .nullInName
  else if pathLimit < byteCount p.toText then .error .nameTooLong
  else files.follow { root := p.root } p.names

/-- The content of a file. -/
def read (files : Files) (p : Path) : Except FileError (List UInt8) :=
  match files.locate p with
  | .error fault => .error ⟨fault, p⟩
  | .ok place =>
    match files.entry? place with
    | some (.file content) => .ok content
    | some .directory => .error ⟨.isDirectory, p⟩
    | none => .error ⟨.notFound, p⟩

/-- The files with one more, or with another content of a file. -/
def write (files : Files) (p : Path) (content : List UInt8) : Except FileError Files :=
  match files.locate p with
  | .error fault => .error ⟨fault, p⟩
  | .ok place =>
    match files.entry? place with
    | some .directory => .error ⟨.isDirectory, p⟩
    | _ => .ok (files.put place (.file content))

/-- Why a file has no text. -/
inductive TextFault where
  | file (e : FileError)
  | notUtf8
  deriving DecidableEq, Repr

/-- The text of a file in UTF-8, with line breaks unified. -/
def readText (files : Files) (p : Path) : Except TextFault Text :=
  match files.read p with
  | .error e => .error (.file e)
  | .ok content =>
    match Text.ofUtf8 content with
    | (t, true) => .ok t.unifyLineBreaks
    | (_, false) => .error .notUtf8

end Files

end ScriptDefs
