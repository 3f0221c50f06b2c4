import ScriptDefs.Markup.Xml.EncodingName
import ScriptDefs.Markup.Xml.Lexical
import ScriptDefs.Text.Decoding

/-!
# Encodings of XML documents

The encoding of a document follows from its first bytes and from its declaration. Bytes that cannot be
decoded are represented by a character that no document may hold.
-/

namespace ScriptDefs.Markup.Xml

/-- The encodings in which documents are read. -/
inductive Encoding where
  | utf8
  | utf16 (bigEndian : Bool)
  | latin1
  | table (t : ByteTable)
  deriving DecidableEq, Repr

/-- Why the encoding that a document declares is refused. -/
inductive EncodingError where
  | mismatch
  | unknown
  | multiByte
  | withoutTable
  | undecodable
  deriving DecidableEq, Repr

namespace Encoding

/-- Stands for bytes that cannot be decoded. -/
def undecodable : CodePoint := .scalar '\x00'

/-- Bytes in an encoding. -/
def decode (e : Encoding) (bytes : List UInt8) : Text × Bool :=
  match e with
  | utf8 => Text.ofUtf8 bytes
  | utf16 bigEndian => Text.ofUtf16 bigEndian bytes
  | latin1 => Text.ofSingleBytes (fun b ↦ some b.toNat) bytes
  | table t => Text.ofSingleBytes (t.codePoint? t.high.toList.toArray) bytes

/-- Where code points are numbered as in Latin-1, the letters of Latin-1 begin names. -/
def alphabet : Encoding → Alphabet
  | utf16 _ | latin1 => .latin
  | utf8 | table _ => .standard

/-- Bytes as a text with line breaks unified, up to the first that cannot be decoded. -/
def toText (e : Encoding) (bytes : List UInt8) : Text :=
  let (t, complete) := e.decode bytes
  Text.unifyLineBreaks (if complete then t else t ++ [undecodable])

/-- The encoding that the first bytes tell, and the bytes after a byte order mark. -/
def detect : List UInt8 → Encoding × List UInt8
  | 0xFE :: 0xFF :: rest => (utf16 true, rest)
  | 0xFF :: 0xFE :: rest => (utf16 false, rest)
  | 0xEF :: 0xBB :: 0xBF :: rest => (utf8, rest)
  | bytes@(0 :: _) => (utf16 true, bytes)
  | bytes@(_ :: 0 :: _) => (utf16 false, bytes)
  | bytes => (utf8, bytes)

/-- Each code unit has two bytes. -/
def isWide : Encoding → Bool
  | utf16 _ => true
  | _ => false

/-- The names of the standard, in lower case. -/
def standardNames : List (Text × Encoding) :=
  [("iso-8859-1", latin1), ("us-ascii", table .ascii), ("utf-8", utf8), ("utf-16be", utf16 true),
    ("utf-16le", utf16 false)]

/-- The encoding with another name, given the one that the first bytes tell. -/
def named (first : Encoding) (name : Text) : Except EncodingError Encoding :=
  match NamedEncoding.find? name with
  | none => .error .unknown
  | some e =>
    match e.form with
    | .table t => if first.isWide then .error .mismatch else .ok (.table t)
    | .multiByte => .error .multiByte
    | .unsuitable => .error .mismatch
    | .withoutTable => .error .withoutTable
    | .undecodable => .error .undecodable

/-- The encoding that a document declares, given the one that its first bytes tell. -/
def declared (first : Encoding) (name : Text) : Except EncodingError Encoding :=
  let key := name.lower
  if key = Text.ofString "utf-16" then
    if first.isWide then .ok first else .error .mismatch
  else
    match standardNames.lookup key with
    | some e =>
      if first.isWide || e.isWide then if e = first then .ok e else .error .mismatch else .ok e
    | none => first.named name

end Encoding

/-- What the declaration at the start of a document says. -/
structure Declaration where
  encoding : Option Text := none
  standalone : Bool := false
  deriving DecidableEq, Repr

/-- Characters of the values in a declaration. -/
def isDeclaredChar (c : CodePoint) : Bool :=
  let n := c.toNat
  (0x61 ≤ n && n ≤ 0x7A) || (0x41 ≤ n && n ≤ 0x5A) || (0x30 ≤ n && n ≤ 0x39) ||
    c = .scalar '.' || c = .scalar '-' || c = .scalar '_'

/-- A value between quotes, and the text after it. -/
def readDeclaredValue? (quote : CodePoint) : Text → Option (Text × Text)
  | [] => none
  | c :: t =>
    if c = quote then some ([], t)
    else if isDeclaredChar c then (readDeclaredValue? quote t).map fun r ↦ (c :: r.1, r.2)
    else none

/-- The next name with its value, if there is one, and the text after it. -/
def readDeclared? (t : Text) : Option (Option (Text × Text) × Text) :=
  match skipSpace t with
  | [] => some (none, [])
  | start =>
    if start.length = t.length then none
    else
      let isStop (c : CodePoint) := c = .scalar '=' || isSpace c
      let name := start.takeWhile fun c ↦ !isStop c
      match skipSpace (start.drop name.length) with
      | .scalar '=' :: rest =>
        if name.isEmpty then none
        else
          match skipSpace rest with
          | .scalar q :: value =>
            if q = '"' ∨ q = '\'' then
              (readDeclaredValue? (.scalar q) value).map fun r ↦ (some (name, r.1), r.2)
            else none
          | _ => none
      | _ => none

/-- The standalone mark at the end of a declaration. -/
def readStandalone? (encoding : Option Text) (item : Text × Text) (rest : Text) :
    Option Declaration :=
  if item.1 = Text.ofString "standalone" ∧ (skipSpace rest).isEmpty then
    if item.2 = Text.ofString "yes" then some ⟨encoding, true⟩
    else if item.2 = Text.ofString "no" then some ⟨encoding, false⟩
    else none
  else none

/-- A declaration between its opening and its end: the version, then the encoding and the standalone
mark, both of which may be missing. -/
def readDeclarationBody? (t : Text) : Option Declaration :=
  match readDeclared? t with
  | some (some (version, _), t₁) =>
    if version = Text.ofString "version" then
      match readDeclared? t₁ with
      | none => none
      | some (none, _) => some {}
      | some (some item, t₂) =>
        if item.1 = Text.ofString "encoding" then
          match item.2 with
          | .scalar c :: _ =>
            if c.isAlpha then
              match readDeclared? t₂ with
              | none => none
              | some (none, _) => some ⟨some item.2, false⟩
              | some (some item', t₃) => readStandalone? (some item.2) item' t₃
            else none
          | _ => none
        else readStandalone? none item t₂
    else none
  | _ => none

/-- The declaration at the start of a document, if there is one, and the text after it. -/
def readDeclaration? (t : Text) : Option (Declaration × Text) :=
  match t with
  | .scalar '<' :: .scalar '?' :: .scalar 'x' :: .scalar 'm' :: .scalar 'l' :: rest =>
    match rest with
    | c :: _ =>
      if isSpace c ∨ c = .scalar '?' then
        match readInstruction? rest with
        | none => none
        | some (body, after) => (readDeclarationBody? body).map fun d ↦ (d, after)
      else some ({}, t)
    | [] => none
  | _ => some ({}, t)

end ScriptDefs.Markup.Xml
