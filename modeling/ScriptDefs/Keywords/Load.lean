import ScriptDefs.Catalogue.Plain
import ScriptDefs.Files
import ScriptDefs.Keywords.FromData
import ScriptDefs.Keywords.FromTree
import ScriptDefs.Keywords.Indented
import ScriptDefs.Keywords.Markup
import ScriptDefs.Log

/-!
# Loading catalogues

The suffix of a file tells whether it holds a marked-up or an indented keyword document. The catalogue in
it can be overridden by patches.
-/

namespace ScriptDefs.Keywords

/-- The forms of keyword documents. -/
inductive Format where
  | markup
  | indented
  deriving DecidableEq, Repr

namespace Format

/-- The form of files with a suffix, in any letter case. -/
def ofSuffix? (suffix : Text) : Option Format :=
  let key := suffix.lower
  if key = Text.ofString ".xml" then some markup
  else if key = Text.ofString ".yml" ∨ key = Text.ofString ".yaml" then some indented
  else none

/-- The name of a form in the log. -/
def name : Format → Text
  | markup => "XML"
  | indented => "YAML"

end Format

/-- Why a catalogue cannot be loaded. -/
inductive LoadError where
  | unsupported (suffix : Text)
  | file (e : FileError)
  | notUtf8
  | markup (e : MarkupError)
  | indented (e : IndentedError)
  | data (e : DataError)
  /-- A cost or a value in a marked-up document has too many digits. -/
  | digitLimit (e : DigitLimit)
  | override (e : OverrideError)
  deriving Repr

/-- The wording of a suffix that is not supported. -/
def unsupportedMessage (suffix : Text) : Text :=
  Text.ofString "Unsupported file format: " ++
    (if suffix.isEmpty then Text.ofString "<none>" else suffix)

/-- The log entry of a remark. -/
def Note.entry : Note → LogEntry
  | .noSection name =>
    { level := .debug
      origin := "sluatypes.catalogue.extract_xml"
      message := Text.ofString "Keywords document has no <map> section " ++ name.quoted }
  | .diagnostic d =>
    { level := .warning
      origin := "sluatypes.catalogue.result"
      message := d.subject.getD "None" ++ Text.ofString " [" ++ d.code ++ Text.ofString "] " ++
        d.message }

/-- The log entry before a document is read. -/
def readingEntry (format : Format) (p : Path) : LogEntry where
  level := .info
  origin := "sluatypes.catalogue.load"
  message := Text.ofString "Reading keywords " ++ format.name ++ Text.ofString " from " ++ p.toText

/-- The log entry after a marked-up document has been read. -/
def parsedEntry (root : Markup.Tree) : LogEntry where
  level := .debug
  origin := "sluatypes.llsd.reader"
  message := Text.ofString "Parsed keywords XML with " ++ Text.ofNat root.index.length ++
    Text.ofString " top-level sections"

/-- A catalogue with the diagnostics on its source. -/
structure Loaded where
  catalogue : Catalogue
  diagnostics : List Diagnostic
  deriving Repr

/-- An extracted catalogue with its diagnostics. -/
def loaded (x : Traced Note LoadError Catalogue) : Traced LogEntry LoadError Loaded := do
  let catalogue ← x.mapNotes Note.entry
  return { catalogue, diagnostics := diagnosticsIn x.notes }

/-- The catalogue in a document of a form. -/
def readCatalogue (effects : Catalogue.EffectTable) (files : Files) (p : Path) :
    Format → Traced LogEntry LoadError Loaded
  | .markup => do
    Traced.note [readingEntry .markup p]
    let bytes ← Traced.ofExcept ((files.read p).mapError .file)
    let root ← Traced.ofExcept ((readMarkup bytes).mapError .markup)
    Traced.note [parsedEntry root]
    loaded ((ofTree effects root).mapError .digitLimit)
  | .indented => do
    Traced.note [readingEntry .indented p]
    let t ← Traced.ofExcept ((files.readText p).mapError fun
      | .file e => .file e
      | .notUtf8 => .notUtf8)
    let data ← Traced.ofExcept ((readIndented t).mapError .indented)
    loaded ((ofData effects data).mapError .data)

/-- The catalogue in a file, with patches applied. -/
def load (effects : Catalogue.EffectTable) (patches : List Patch) (files : Files) (p : Path) :
    Traced LogEntry LoadError Loaded :=
  match Format.ofSuffix? p.suffix with
  | none => .fail (.unsupported p.suffix)
  | some format => do
    let l ← readCatalogue effects files p format
    let overridden := loggedOverride patches (l.catalogue.overridden patches)
    return { l with catalogue := ← overridden.mapError .override }

end ScriptDefs.Keywords
