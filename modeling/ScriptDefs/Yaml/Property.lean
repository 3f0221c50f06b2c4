import ScriptDefs.Text.Decoding
import ScriptDefs.Text.Digit
import ScriptDefs.Yaml.Fault
import ScriptDefs.Yaml.Token

/-!
# Properties and directives

Anchors, aliases, tags and directives at a place in a document.
-/

namespace ScriptDefs.Yaml

/-- A token that has been read, and the place after it. -/
abbrev TokenRead := Except Fault (Token × Cursor)

/-- The value of an optional result; without one the document is malformed. -/
def orMalformed {α : Type} : Option α → Except Fault α
  | some a => .ok a
  | none => .error .malformed

/-- The name after the indicator of an anchor or an alias. -/
def readName? (c : Cursor) : Option (Text × Cursor) :=
  let (name, c) := c.takeWhile isWordChar
  if name.isEmpty then none
  else if isGap c.peek ∨ isOneOf "?:,]\x7d%@`" c.peek then some (name, c)
  else none

/-- Characters of the written form of a tag. -/
def isTagChar (c : CodePoint) : Bool :=
  isWordChar c || isOneOf ";/?:@&=+$,_.!~*'()[]%" (some c)

/-- Bytes that are written as a percent sign and two hexadecimal digits each. -/
def escapedBytes? : Text → Option (List UInt8 × Text)
  | .scalar '%' :: a :: b :: t => do
    let high ← a.hexDigit?
    let low ← b.hexDigit?
    let (bytes, rest) ← escapedBytes? t
    return (UInt8.ofNat (16 * high + low) :: bytes, rest)
  | .scalar '%' :: _ => none
  | t => some ([], t)

/-- The characters of a tag with its escapes replaced, of which there are at most `fuel`. -/
def tagText? : Nat → Text → Option Text
  | 0, _ => none
  | fuel + 1, t =>
    let start := t.takeWhile (· ≠ .scalar '%')
    match t.dropWhile (· ≠ .scalar '%') with
    | [] => some start
    | escapes => do
      let (bytes, rest) ← escapedBytes? escapes
      let (middle, complete) := Text.ofUtf8 bytes
      guard complete
      return start ++ middle ++ (← tagText? fuel rest)

/-- The written form of a tag, which is not empty. -/
def readTagText? (c : Cursor) : Option (Text × Cursor) := do
  let (t, c) := c.takeWhile isTagChar
  guard !t.isEmpty
  return (← tagText? (t.length + 1) t, c)

/-- A handle: an exclamation mark, or a word between two of them. -/
def readHandle? (c : Cursor) : Option (Text × Cursor) :=
  let mark : CodePoint := .scalar '!'
  if c.peek ≠ some mark then none
  else if c.peekAt 1 = some (.scalar ' ') then some ([mark], c.next)
  else
    let (word, c) := c.next.takeWhile isWordChar
    if c.peek = some mark then some (mark :: word ++ [mark], c.next) else none

/-- A tag at its exclamation mark. -/
def readTag? (c : Cursor) : Option (Token × Cursor) := do
  let (token, c) ←
    if c.peekAt 1 = some (.scalar '<') then do
      let (t, c) ← readTagText? (c.advance 2)
      guard (c.peek = some (.scalar '>'))
      pure (Token.tag none t, c.next)
    else if isGap (c.peekAt 1) then pure (Token.tag none "!", c.next)
    else do
      let word := (c.rest.drop 1).takeWhile fun a ↦ !isBreak a && !isSpace a
      let (handle, c) ←
        if word.contains (.scalar '!') then readHandle? c
        else pure (Text.ofString "!", c.next)
      let (suffix, c) ← readTagText? c
      pure (Token.tag (some handle) suffix, c)
  guard (endsWord c.peek)
  return (token, c)

/-- A number of a version. -/
def readVersionNumber (c : Cursor) : Except Fault (Nat × Cursor) := do
  let (digits, _) := Text.spanDigits CodePoint.asciiDigit? c.rest
  if digits.isEmpty then throw .malformed
  let n ← (DigitLimit.numberOf digits).mapError Fault.digitLimit
  return (n, c.advance digits.length)

/-- The version that a directive asks for. -/
def readVersion (c : Cursor) : Except Fault (Directive × Cursor) := do
  let (major, c) ← readVersionNumber (c.skipWhile isSpace)
  if c.peek ≠ some (.scalar '.') then throw .malformed
  let (_, c) ← readVersionNumber c.next
  if endsWord c.peek then return (.version major, c) else throw .malformed

/-- The handle that a directive gives a meaning. -/
def readTagDirective? (c : Cursor) : Option (Directive × Cursor) := do
  let (handle, c) ← readHandle? (c.skipWhile isSpace)
  guard (c.peek = some (.scalar ' '))
  let (start, c) ← readTagText? (c.skipWhile isSpace)
  guard (endsWord c.peek)
  return (.tag handle start, c)

/-- A directive at its percent sign, with the rest of its line. -/
def readDirective (c : Cursor) : TokenRead := do
  let (name, c) := c.next.takeWhile isWordChar
  if name.isEmpty || !endsWord c.peek then throw .malformed
  let (directive, c) ←
    if name = Text.ofString "YAML" then readVersion c
    else if name = Text.ofString "TAG" then orMalformed (readTagDirective? c)
    else pure (.other, c.skipWhile fun a ↦ !isBreak a)
  return (.directive directive, ← orMalformed c.finishLine?)

end ScriptDefs.Yaml
