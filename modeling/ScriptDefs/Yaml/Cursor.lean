import ScriptDefs.Text.Basic

/-!
# Places in YAML documents

A place in a document with its line and its column, and the classes of characters that the format
distinguishes.
-/

namespace ScriptDefs.Yaml

/-- Characters that a document may hold. -/
def isAllowed (c : CodePoint) : Bool :=
  Text.inRanges [(0x09, 0x0A), (0x0D, 0x0D), (0x20, 0x7E), (0x85, 0x85), (0xA0, 0xD7FF),
    (0xE000, 0xFFFD), (0x10000, 0x10FFFF)] c.toNat

/-- Characters that break lines. -/
def isBreak (c : CodePoint) : Bool :=
  c = .scalar '\n' || c = .scalar '\r' || c.toNat = 0x85 || c.toNat = 0x2028 || c.toNat = 0x2029

/-- A space. -/
def isSpace (c : CodePoint) : Bool := c = .scalar ' '

/-- A space or a tab. -/
def isBlank (c : CodePoint) : Bool := isSpace c || c = .scalar '\t'

/-- Characters of the names of anchors and of directives. -/
def isWordChar (c : CodePoint) : Bool :=
  match c with
  | .scalar c => c.isAlphanum || c = '-' || c = '_'
  | .surrogate _ => false

/-- A character, if there is one, is one of a set. -/
def isOneOf (set : String) (c : Option CodePoint) : Bool := c.any (Text.ofString set).contains

/-- The line ends here. -/
def endsLine (c : Option CodePoint) : Bool := c.all isBreak

/-- A space or the end of the line stands here. -/
def endsWord (c : Option CodePoint) : Bool := c.all fun a ↦ isSpace a || isBreak a

/-- A space, a tab or the end of the line stands here. -/
def isGap (c : Option CodePoint) : Bool := c.all fun a ↦ isBlank a || isBreak a

/-- The byte order mark, which takes no column. -/
def byteOrderMark : CodePoint := .scalar '\uFEFF'

/-- A place in a document: what follows it, the number of characters and of lines before it, and its
column. -/
structure Cursor where
  rest : Text
  /-- The number of characters of the document, which bounds what can be read from a place. -/
  size : Nat
  index : Nat := 0
  line : Nat := 0
  column : Nat := 0
  deriving Repr

namespace Cursor

/-- The place before a text. -/
def ofText (t : Text) : Cursor where
  rest := t
  size := t.length

/-- The character at a place. -/
def peek (c : Cursor) : Option CodePoint := c.rest.head?

/-- The character some places further on. -/
def peekAt (n : Nat) (c : Cursor) : Option CodePoint := c.rest[n]?

/-- The place after the next character. -/
def next (c : Cursor) : Cursor :=
  match c.rest with
  | [] => c
  | a :: t =>
    if isBreak a && !(a = .scalar '\r' && t.head? = some (.scalar '\n')) then
      { c with rest := t, index := c.index + 1, line := c.line + 1, column := 0 }
    else
      { c with
        rest := t
        index := c.index + 1
        column := if a = byteOrderMark then c.column else c.column + 1 }

/-- The place some characters further on. -/
def advance : Nat → Cursor → Cursor
  | 0, c => c
  | n + 1, c => advance n c.next

/-- The place after all characters of a class. -/
def skipWhile (p : CodePoint → Bool) (c : Cursor) : Cursor :=
  c.advance (c.rest.takeWhile p).length

/-- The characters of a class, and the place after them. -/
def takeWhile (p : CodePoint → Bool) (c : Cursor) : Text × Cursor :=
  let t := c.rest.takeWhile p
  (t, c.advance t.length)

/-- The line break at a place, if there is one, and the place after it. Only the separators of lines and
of paragraphs are kept as they are. -/
def lineBreak (c : Cursor) : Text × Cursor :=
  match c.rest with
  | .scalar '\r' :: .scalar '\n' :: _ => ([.scalar '\n'], c.advance 2)
  | a :: _ =>
    if isBreak a then
      (if a.toNat = 0x2028 ∨ a.toNat = 0x2029 then [a] else [.scalar '\n'], c.next)
    else ([], c)
  | [] => ([], c)

/-- The place at the end of a comment, if there is one. -/
def skipComment (c : Cursor) : Cursor :=
  if c.peek = some (.scalar '#') then c.skipWhile fun a ↦ !isBreak a else c

/-- Three equal characters stand here, alone in their word. -/
def atMark (a : Char) (c : Cursor) : Bool :=
  (List.replicate 3 (CodePoint.scalar a)).isPrefixOf c.rest && isGap (c.peekAt 3)

/-- A document begins or ends here. -/
def atDocumentMark (c : Cursor) : Bool := c.atMark '-' || c.atMark '.'

/-- The rest of a line that holds nothing more than a comment, with its line break. -/
def finishLine? (c : Cursor) : Option Cursor :=
  let c := (c.skipWhile isSpace).skipComment
  if endsLine c.peek then some c.lineBreak.2 else none

/-- The place of the next token, and whether it is on a later line. At most `fuel` lines are passed. -/
def toToken : Nat → Cursor → Cursor × Bool
  | 0, c => (c, false)
  | fuel + 1, c =>
    match (c.skipWhile isSpace).skipComment.lineBreak with
    | ([], c) => (c, false)
    | (_, c) => ((toToken fuel c).1, true)

end Cursor

end ScriptDefs.Yaml
