import ScriptDefs.Text.Digit
import ScriptDefs.Yaml.Cursor
import ScriptDefs.Yaml.Fault

/-!
# Quoted scalars

Between single quotes a doubled quote stands for a quote; between double quotes a backslash begins an
escape. A single line break becomes a space, and the blanks around it do not count.
-/

namespace ScriptDefs.Yaml

/-- A text that has been read, and the place after it. -/
abbrev Read := Except Fault (Text × Cursor)

/-- One text in front of another that has been read. -/
def Read.after (t : Text) (r : Read) : Read := r.map fun x ↦ (t ++ x.1, x.2)

/-- The characters that an escape of one letter stands for. -/
def simpleEscapes : List (Char × Nat) :=
  [('0', 0), ('a', 7), ('b', 8), ('t', 9), ('\t', 9), ('n', 10), ('v', 11), ('f', 12), ('r', 13),
    ('e', 27), (' ', 32), ('"', 34), ('\\', 92), ('/', 47), ('N', 0x85), ('_', 0xA0), ('L', 0x2028),
    ('P', 0x2029)]

/-- How many hexadecimal digits follow the letter of a numeric escape. -/
def numericEscapes : List (Char × Nat) := [('x', 2), ('u', 4), ('U', 8)]

/-- The code point with a number. -/
def codePoint (n : Nat) : Except Fault CodePoint :=
  match CodePoint.ofNat? n with
  | some c => .ok c
  | none => .error (.noCodePoint n)

/-- Line breaks, each with blanks before it. A document does not end between quotes. -/
def quotedBreaks : Nat → Cursor → Read
  | 0, _ => .error .malformed
  | fuel + 1, c =>
    if c.atDocumentMark then .error .malformed
    else
      match (c.skipWhile isBlank).lineBreak with
      | ([], c) => .ok ([], c)
      | (b, c) => (quotedBreaks fuel c).after b

/-- The escape after a backslash. -/
def quotedEscape (c : Cursor) : Read :=
  match c.peek with
  | some (.scalar a) =>
    match simpleEscapes.lookup a, numericEscapes.lookup a with
    | some n, _ => do return ([← codePoint n], c.next)
    | none, some width =>
      let digits := (Text.spanDigits CodePoint.hexDigit? (c.next.rest.take width)).1
      if digits.length = width then do
        return ([← codePoint (Text.numberOf 16 digits)], c.next.advance width)
      else .error .malformed
    | none, none =>
      if isBreak (.scalar a) then
        let c := c.lineBreak.2
        quotedBreaks (c.size + 1) c
      else .error .malformed
  | _ => .error .malformed

/-- Blanks and line breaks between quotes. -/
def quotedGap (c : Cursor) : Read :=
  let (blanks, c) := c.takeWhile isBlank
  match c.lineBreak with
  | ([], c) => if c.peek.isNone then .error .malformed else .ok (blanks, c)
  | (b, c) => do
    let (more, c) ← quotedBreaks (c.size + 1) c
    let start : Text :=
      if b ≠ [.scalar '\n'] then b else if more.isEmpty then [.scalar ' '] else []
    return (start ++ more, c)

/-- The text after an opening quote, with at most `fuel` parts. -/
def quotedText (double : Bool) : Nat → Cursor → Read
  | 0, _ => .error .malformed
  | fuel + 1, c =>
    match c.rest with
    | [] => .error .malformed
    | .scalar '\'' :: .scalar '\'' :: _ =>
      if double then (quotedText double fuel c.next).after [.scalar '\'']
      else (quotedText double fuel (c.advance 2)).after [.scalar '\'']
    | a :: _ =>
      if a = .scalar (if double then '"' else '\'') then .ok ([], c.next)
      else if double ∧ a = .scalar '\\' then do
        let (t, c) ← quotedEscape c.next
        (quotedText double fuel c).after t
      else if isGap (some a) then do
        let (t, c) ← quotedGap c
        (quotedText double fuel c).after t
      else (quotedText double fuel c.next).after [a]

end ScriptDefs.Yaml
