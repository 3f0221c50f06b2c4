import ScriptDefs.Markup.Xml.NameTable
import ScriptDefs.Text.Digit

/-!
# Lexical parts of XML

Characters, names, references, literals, comments and processing instructions. Each function reads one
part from the start of a text and gives the text after it; without a result the text is malformed.
-/

namespace ScriptDefs.Markup.Xml

/-- Characters that a document may hold. -/
def isChar (c : CodePoint) : Bool :=
  let n := c.toNat
  (0x20 ≤ n && n ≤ 0xD7FF) || n = 0x0A || n = 0x09 || n = 0x0D || (0xE000 ≤ n && n ≤ 0xFFFD) ||
    (0x10000 ≤ n && n ≤ 0x10FFFF)

/-- White space between the parts of markup. -/
def isSpace (c : CodePoint) : Bool :=
  c = .scalar ' ' || c = .scalar '\n' || c = .scalar '\t' || c = .scalar '\r'

/-- Which code points are letters. -/
inductive Alphabet where
  /-- Those of the tables. -/
  | standard
  /-- Those of the tables, and the other letters of Latin-1. -/
  | latin
  deriving DecidableEq, Repr

/-- The micro sign and the ordinal indicators. -/
def otherLatinLetters : List Nat := [0xAA, 0xB5, 0xBA]

namespace Alphabet

/-- Code points that begin a name. -/
def isNameStart (a : Alphabet) (c : CodePoint) : Bool :=
  let n := c.toNat
  c = .scalar '_' || c = .scalar ':' ||
    Text.inRanges (if n < 0xE00 then lettersLow else lettersHigh) n ||
    (a = latin && otherLatinLetters.contains n)

end Alphabet

/-- Code points that a name holds after its start. -/
def isNameMark (c : CodePoint) : Bool :=
  c = .scalar '-' || c = .scalar '.' || Text.inRanges nameMarks c.toNat

/-- Code points that a name holds. -/
def Alphabet.isNameChar (a : Alphabet) (c : CodePoint) : Bool := a.isNameStart c || isNameMark c

/-- The text without white space before it. -/
def skipSpace (t : Text) : Text := t.dropWhile isSpace

/-- A name. -/
def Alphabet.readName? (a : Alphabet) : Text → Option (Text × Text)
  | [] => none
  | c :: t =>
    if a.isNameStart c then some (c :: t.takeWhile a.isNameChar, t.dropWhile a.isNameChar) else none

/-- What a reference refers to. -/
inductive Reference where
  | char (c : CodePoint)
  | entity (name : Text)
  deriving DecidableEq, Repr

/-- The character with a number, if a document may hold it. -/
def charOf? (n : Nat) : Option CodePoint := (CodePoint.ofNat? n).filter isChar

/-- The end of a numeric reference with given digits. -/
def readNumeric? (base : Nat) (r : List Nat × Text) : Option (Reference × Text) :=
  match r with
  | (_ :: _, .scalar ';' :: rest) => (charOf? (Text.numberOf base r.1)).map fun c ↦ (.char c, rest)
  | _ => none

/-- A reference after its ampersand. -/
def Alphabet.readReference? (a : Alphabet) (t : Text) : Option (Reference × Text) :=
  match t with
  | .scalar '#' :: .scalar 'x' :: t' => readNumeric? 16 (Text.spanDigits CodePoint.hexDigit? t')
  | .scalar '#' :: t' => readNumeric? 10 (Text.spanDigits CodePoint.asciiDigit? t')
  | _ =>
    match a.readName? t with
    | some (name, .scalar ';' :: rest) => some (.entity name, rest)
    | _ => none

/-- The characters of the predefined entities. -/
def predefined : List (Text × Char) :=
  [("lt", '<'), ("gt", '>'), ("amp", '&'), ("quot", '"'), ("apos", '\'')]

/-- Characters up to a closing quote. -/
def readQuoted? (quote : CodePoint) : Text → Option (Text × Text)
  | [] => none
  | c :: t =>
    if c = quote then some ([], t)
    else if isChar c then (readQuoted? quote t).map fun r ↦ (c :: r.1, r.2)
    else none

/-- A text between single or double quotes. -/
def readLiteral? : Text → Option (Text × Text)
  | .scalar '"' :: t => readQuoted? (.scalar '"') t
  | .scalar '\'' :: t => readQuoted? (.scalar '\'') t
  | _ => none

/-- A comment after its opening; two hyphens occur only at its end. -/
def skipComment? : Text → Option Text
  | .scalar '-' :: .scalar '-' :: .scalar '>' :: rest => some rest
  | .scalar '-' :: .scalar '-' :: _ => none
  | c :: t => if isChar c then skipComment? t else none
  | [] => none

/-- The characters of a processing instruction up to its end, and the text after that. -/
def readInstruction? : Text → Option (Text × Text)
  | .scalar '?' :: .scalar '>' :: rest => some ([], rest)
  | c :: t => if isChar c then (readInstruction? t).map fun r ↦ (c :: r.1, r.2) else none
  | [] => none

/-- The target is the reserved one, in any letter case. -/
def isReservedTarget : Text → Bool
  | [.scalar a, .scalar b, .scalar c] =>
    (a = 'x' || a = 'X') && (b = 'm' || b = 'M') && (c = 'l' || c = 'L')
  | _ => false

/-- A processing instruction after its opening. -/
def Alphabet.skipInstruction? (a : Alphabet) (t : Text) : Option Text :=
  match a.readName? t with
  | none => none
  | some (target, rest) =>
    if isReservedTarget target then none
    else
      match rest with
      | .scalar '?' :: .scalar '>' :: rest' => some rest'
      | c :: _ => if isSpace c then (readInstruction? rest).map (·.2) else none
      | [] => none

/-- Character data of a marked section, up to its end. -/
def readSection? : Text → Option (Text × Text)
  | .scalar ']' :: .scalar ']' :: .scalar '>' :: rest => some ([], rest)
  | c :: t => if isChar c then (readSection? t).map fun r ↦ (c :: r.1, r.2) else none
  | [] => none

/-- Character data up to the next markup. The end of a marked section is not allowed in it. -/
def readData? : Text → Option (Text × Text)
  | .scalar ']' :: .scalar ']' :: .scalar '>' :: _ => none
  | c :: t =>
    if c = .scalar '<' ∨ c = .scalar '&' then some ([], c :: t)
    else if isChar c then (readData? t).map fun r ↦ (c :: r.1, r.2)
    else none
  | [] => some ([], [])

/-- White space, comments and processing instructions outside the outermost element, at most `fuel` of
them. -/
def Alphabet.skipMisc? (a : Alphabet) : Nat → Text → Option Text
  | 0, _ => none
  | fuel + 1, t =>
    match skipSpace t with
    | .scalar '<' :: .scalar '!' :: .scalar '-' :: .scalar '-' :: rest =>
      (skipComment? rest).bind (a.skipMisc? fuel)
    | .scalar '<' :: .scalar '?' :: rest => (a.skipInstruction? rest).bind (a.skipMisc? fuel)
    | rest => some rest

end ScriptDefs.Markup.Xml
