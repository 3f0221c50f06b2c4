import ScriptDefs.Markup.Xml.Reader
import ScriptDefs.Text.Clean

/-!
# Marked-up keyword documents

A marked-up keyword document has a root whose first child is the map that holds the sections. All its
texts are cleaned as they are read.
-/

namespace ScriptDefs.Keywords

/-- Why a marked-up keyword document cannot be read. -/
inductive MarkupError where
  /-- The markup is not well formed. -/
  | malformed
  /-- An element ends that is not open. -/
  | nesting (e : Markup.StructureError)
  /-- The markup has no root. -/
  | incomplete (e : Markup.StructureError)
  /-- The root does not begin with a map. -/
  | noMap
  | encoding (e : Markup.Xml.EncodingError)
  /-- A reference in a text has too many digits. -/
  | digitLimit (e : DigitLimit)
  deriving DecidableEq, Repr

/-- The wording of an error, where there is one. -/
def MarkupError.message? : MarkupError → Option Text
  | .malformed => some "Malformed keywords XML"
  | .nesting e => some e.message
  | .incomplete e => some (Text.ofString "Unable to parse keywords XML: " ++ e.message)
  | .noMap => some "Unable to parse keywords XML: <llsd> does not start with a <map>"
  | .encoding .multiByte => some "multi-byte encodings are not supported"
  | .encoding _ => none
  | .digitLimit e => some e.message

/-- The error concerns the form of the document, and not an encoding or a number in it. -/
def MarkupError.isOfForm : MarkupError → Bool
  | .malformed | .nesting _ | .incomplete _ | .noMap => true
  | .encoding _ | .digitLimit _ => false

/-- How keyword documents are built: texts are cleaned. -/
def markupSettings : Markup.Builder.Settings DigitLimit where
  normalize := Text.clean
  rootTag := Markup.rootTag

/-- The document that has been reported, unless the reporting ended early. -/
def treeOfReading (r : Markup.Xml.Reading) : Except MarkupError Markup.Tree :=
  match Markup.Builder.run markupSettings {} (Markup.Callback.events r.callbacks) with
  | .error (.normalizer e) => .error (.digitLimit e)
  | .error (.structural e) => .error (.nesting e)
  | .ok b =>
    match r.outcome with
    | .malformed => .error .malformed
    | .refusedEncoding e => .error (.encoding e)
    | .complete => (b.finish markupSettings.rootTag).mapError .incomplete

/-- The map that holds the sections. -/
def sectionsOf (root : Markup.Tree) : Except MarkupError Markup.Tree :=
  match root.children.head? with
  | some top => if top.isMap then .ok top else .error .noMap
  | none => .error .noMap

/-- The map of sections in the bytes of a marked-up document. -/
def readMarkup (bytes : List UInt8) : Except MarkupError Markup.Tree := do
  sectionsOf (← treeOfReading (Markup.Xml.read bytes))

end ScriptDefs.Keywords
