import ScriptDefs.Text.Digit
import ScriptDefs.Text.PrintableTable

/-!
# Quoted texts

The form in which messages show a text or bytes: between quotes, with escapes for the quote, the backslash
and all that has no printable form.
-/

namespace ScriptDefs

namespace CodePoint

/-- The code point has a printable form of its own; of the spaces only U+0020 has. -/
def isPrintable : CodePoint → Bool
  | .surrogate _ => false
  | .scalar c =>
    if c.toNat < 0x7F then 0x20 ≤ c.toNat
    else c.toNat ≠ 0x7F &&
      !(Text.inRanges Text.unprintableLow c.toNat || Text.inRanges Text.unprintableHigh c.toNat)

/-- A code point inside quotes. -/
def quoted (quote : Char) (c : CodePoint) : Text :=
  if c = .scalar quote then [.scalar '\\', c]
  else if c = .scalar '\\' then "\\\\"
  else if c = .scalar '\n' then "\\n"
  else if c = .scalar '\r' then "\\r"
  else if c = .scalar '\t' then "\\t"
  else if c.isPrintable then [c]
  else if c.toNat ≤ 0xFF then .scalar '\\' :: .scalar 'x' :: Text.hexDigits 2 c.toNat
  else if c.toNat ≤ 0xFFFF then .scalar '\\' :: .scalar 'u' :: Text.hexDigits 4 c.toNat
  else .scalar '\\' :: .scalar 'U' :: Text.hexDigits 8 c.toNat

end CodePoint

namespace Text

/-- Single quotes, or double quotes for a text that holds a single and no double one. -/
def quoteMark (t : Text) : Char :=
  if t.contains (.scalar '\'') && !t.contains (.scalar '"') then '"' else '\''

/-- The text between quotes. -/
def quoted (t : Text) : Text :=
  .scalar t.quoteMark :: t.flatMap (CodePoint.quoted t.quoteMark) ++ [.scalar t.quoteMark]

/-- Bytes between quotes, after a letter that tells that they are bytes. Only ASCII characters stand for
themselves. -/
def quotedBytes (bytes : List UInt8) : Text :=
  let t : Text := bytes.map fun b ↦ .scalar (Char.ofNat b.toNat)
  let byteText (c : CodePoint) : Text :=
    if c.toNat < 0x80 then c.quoted t.quoteMark
    else .scalar '\\' :: .scalar 'x' :: Text.hexDigits 2 c.toNat
  .scalar 'b' :: .scalar t.quoteMark :: t.flatMap byteText ++ [.scalar t.quoteMark]

end Text

end ScriptDefs
