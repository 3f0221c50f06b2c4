import ScriptDefs.Markup.Xml.Content
import ScriptDefs.Markup.Xml.Encoding

/-!
# Reading XML documents

Bytes as the callbacks that report the elements and the texts of a document.
-/

namespace ScriptDefs.Markup.Xml

/-- How the reading of a document ends. -/
inductive Outcome where
  | complete
  | malformed
  /-- The declared encoding is none in which documents can be read. -/
  | refusedEncoding (e : EncodingError)
  deriving DecidableEq, Repr

/-- What was reported, in order, and how the reading ended. -/
structure Reading where
  callbacks : List Callback
  outcome : Outcome
  deriving Repr

/-- The document type declaration before the outermost element, if there is one, and the text from that
element on. -/
def readProlog? (a : Alphabet) (standalone : Bool) (t : Text) : Option (Dtd × Text) := do
  let start ← a.skipMisc? (t.length + 1) t
  match (Text.ofString "<!DOCTYPE").isPrefixOf? start with
  | none => return ({ standalone }, start)
  | some rest =>
    guard (rest.head?.any isSpace)
    let (dtd, afterDtd) ← readDoctype? a standalone rest
    return (dtd, ← a.skipMisc? (afterDtd.length + 1) afterDtd)

/-- The outermost element and what surrounds it. -/
def readBody (a : Alphabet) (standalone : Bool) (t : Text) : Reading :=
  match readProlog? a standalone t with
  | none => ⟨[], .malformed⟩
  | some (dtd, start) =>
    match start with
    | .scalar '<' :: c :: _ =>
      if a.isNameStart c then
        match readContent dtd (dtd.bound start) a [] 0 start {} with
        | (p, none) => ⟨p.callbacks.reverse, .malformed⟩
        | (p, some rest) =>
          match a.skipMisc? (rest.length + 1) rest with
          | some [] => ⟨(Callback.endDocument :: p.callbacks).reverse, .complete⟩
          | _ => ⟨p.callbacks.reverse, .malformed⟩
      else ⟨[], .malformed⟩
    | _ => ⟨[], .malformed⟩

/-- A document. What follows its declaration is decoded in the encoding that the declaration names. -/
def read (bytes : List UInt8) : Reading :=
  let (first, body) := Encoding.detect bytes
  let t := first.toText body
  match readDeclaration? t with
  | none => ⟨[], .malformed⟩
  | some (declaration, rest) =>
    match declaration.encoding with
    | none => readBody first.alphabet declaration.standalone rest
    | some name =>
      match Encoding.declared first name with
      | .error .mismatch => ⟨[], .malformed⟩
      | .error e => ⟨[], .refusedEncoding e⟩
      | .ok e =>
        let rest := (e.toText body).drop (t.length - rest.length)
        readBody e.alphabet declaration.standalone rest

end ScriptDefs.Markup.Xml
