import ScriptDefs.Yaml.Cursor

/-!
# Plain scalars

A scalar without quotes ends before a comment, before the end of a key, and in flow context before its
indicators. Lines after the first are indented more than the block around them; a single line break
becomes a space.
-/

namespace ScriptDefs.Yaml

/-- How many characters of a plain scalar stand at the start of a text. -/
def plainLength (inFlow : Bool) : Text → Nat
  | [] => 0
  | c :: t =>
    if isGap (some c) ∨
        (c = .scalar ':' ∧ (isGap t.head? ∨ (inFlow ∧ isOneOf ",[]\x7b\x7d" t.head?))) ∨
        (inFlow ∧ isOneOf ",?[]\x7b\x7d" (some c)) then 0
    else plainLength inFlow t + 1

/-- What stands between two parts of a plain scalar. -/
structure PlainGap where
  /-- What the gap contributes to the text; without it the scalar ends. -/
  text : Text
  cursor : Cursor
  /-- The gap goes on to another line. -/
  breaks : Bool

/-- Spaces and line breaks after a line break, until the document ends. The result lacks a text in that
case. -/
def plainBreaks : Nat → Cursor → Option Text × Cursor
  | 0, c => (some [], c)
  | fuel + 1, c =>
    match (c.skipWhile isSpace).lineBreak with
    | ([], c) => (some [], c)
    | (b, c) =>
      if c.atDocumentMark then (none, c)
      else
        let (more, c) := plainBreaks fuel c
        (more.map (b ++ ·), c)

/-- The gap at a place. -/
def plainGap (c : Cursor) : PlainGap :=
  let (spaces, c) := c.takeWhile isSpace
  match c.lineBreak with
  | ([], c) => ⟨spaces, c, false⟩
  | (b, c) =>
    if c.atDocumentMark then ⟨[], c, true⟩
    else
      match plainBreaks (c.size + 1) c with
      | (none, c) => ⟨[], c, true⟩
      | (some more, c) =>
        let start : Text :=
          if b ≠ [.scalar '\n'] then b else if more.isEmpty then [.scalar ' '] else []
        ⟨start ++ more, c, true⟩

/-- A plain scalar: its text, the place after it, and whether that is on a later line. -/
structure PlainScalar where
  text : Text
  cursor : Cursor
  breaks : Bool

/-- A plain scalar whose further lines have at least a certain column. -/
def plainScalar (inFlow : Bool) (column : Nat) : Nat → Cursor → PlainScalar
  | 0, c => ⟨[], c, false⟩
  | fuel + 1, c =>
    let part := c.rest.take (plainLength inFlow c.rest)
    let gap := plainGap (c.advance part.length)
    let next := gap.cursor
    if gap.text.isEmpty ∨ next.peek = some (.scalar '#') ∨ (!inFlow ∧ next.column < column) ∨
        plainLength inFlow next.rest = 0 then
      ⟨part, next, gap.breaks⟩
    else
      let more := plainScalar inFlow column fuel next
      { more with text := part ++ gap.text ++ more.text }

end ScriptDefs.Yaml
