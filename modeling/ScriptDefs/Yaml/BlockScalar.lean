import ScriptDefs.Text.Digit
import ScriptDefs.Yaml.QuotedScalar

/-!
# Block scalars

The lines after a header that are indented alike. A literal scalar keeps its line breaks; a folded one
joins neighbouring lines that begin with no blank. The header says what becomes of the line breaks at
the end.
-/

namespace ScriptDefs.Yaml

/-- What becomes of the line breaks at the end. -/
inductive Chomping where
  | strip
  | clip
  | keep
  deriving DecidableEq, Repr

/-- The chomping that a character stands for. -/
def Chomping.ofChar? : CodePoint → Option Chomping
  | .scalar '+' => some .keep
  | .scalar '-' => some .strip
  | _ => none

/-- The header of a block scalar: its chomping, and its indentation on top of that of its parent if the
header says so. -/
structure BlockHeader where
  chomping : Chomping := .clip
  increment : Option Nat := none
  deriving DecidableEq, Repr

/-- The chomping at a place, if one is given. -/
def readChomping (c : Cursor) : Option Chomping × Cursor :=
  match c.peek.bind Chomping.ofChar? with
  | some chomping => (some chomping, c.next)
  | none => (none, c)

/-- The indentation at a place, if one is given; it is not zero. -/
def readIncrement? (c : Cursor) : Option (Option Nat × Cursor) :=
  match c.peek.bind CodePoint.asciiDigit? with
  | some 0 => none
  | some n => some (some n, c.next)
  | none => some (none, c)

/-- The header at a place, with the rest of its line. -/
def readHeader? (c : Cursor) : Option (BlockHeader × Cursor) := do
  let (before, c) := readChomping c
  let (increment, c) ← readIncrement? c
  let (after, c) := if before.isNone ∧ increment.isSome then readChomping c else (none, c)
  guard (endsWord c.peek)
  return (⟨(before <|> after).getD .clip, increment⟩, ← c.finishLine?)

/-- The place after spaces before a column. -/
def indentTo (column : Nat) (c : Cursor) : Cursor :=
  c.advance (min (column - c.column) (c.rest.takeWhile isSpace).length)

/-- Line breaks, each with spaces before it up to a column. -/
def blockBreaks (column : Nat) : Nat → Cursor → Text × Cursor
  | 0, c => ([], c)
  | fuel + 1, c =>
    match (indentTo column c).lineBreak with
    | ([], c) => ([], c)
    | (b, c) =>
      let (more, c) := blockBreaks column fuel c
      (b ++ more, c)

/-- Line breaks before the first line, and the furthest column that the spaces among them reach. -/
def leadingBreaks : Nat → Cursor → Text × Nat × Cursor
  | 0, c => ([], 0, c)
  | fuel + 1, c =>
    let c := c.skipWhile isSpace
    let reached := c.column
    match c.lineBreak with
    | ([], c) => ([], reached, c)
    | (b, c) =>
      let (more, column, c) := leadingBreaks fuel c
      (b ++ more, max reached column, c)

/-- Lines at a column, after the line breaks before them. -/
def blockLines (folded : Bool) (chomping : Chomping) (column : Nat) :
    Nat → Text → Cursor → Text × Cursor
  | 0, _, c => ([], c)
  | fuel + 1, breaks, c =>
    let isBlankHere (c : Cursor) : Bool := c.peek.any isBlank
    let (line, afterLine) := c.takeWhile fun a ↦ !isBreak a
    let (b, c') := afterLine.lineBreak
    let (breaks', c') := blockBreaks column (c'.size + 1) c'
    if c'.column = column ∧ c'.peek.isSome then
      let joint : Text :=
        if folded ∧ b = [.scalar '\n'] ∧ !isBlankHere c ∧ !isBlankHere c' then
          if breaks'.isEmpty then [.scalar ' '] else []
        else b
      let (more, last) := blockLines folded chomping column fuel breaks' c'
      (breaks ++ line ++ joint ++ more, last)
    else
      let tail : Text :=
        match chomping with
        | .strip => []
        | .clip => b
        | .keep => b ++ breaks'
      (breaks ++ line ++ tail, c')

/-- A block scalar after its indicator, given the column that it has at least. -/
def blockScalar (folded : Bool) (least : Nat) (c : Cursor) : Read :=
  match readHeader? c with
  | none => .error .malformed
  | some (header, c) =>
    let fuel := c.size + 1
    let (breaks, column, c) :=
      match header.increment with
      | none =>
        let (breaks, column, c) := leadingBreaks fuel c
        (breaks, max least column, c)
      | some n =>
        let column := least + n - 1
        let (breaks, c) := blockBreaks column fuel c
        (breaks, column, c)
    if c.column = column ∧ c.peek.isSome then
      .ok (blockLines folded header.chomping column (c.size + 1) breaks c)
    else .ok (if header.chomping = .keep then breaks else [], c)

end ScriptDefs.Yaml
