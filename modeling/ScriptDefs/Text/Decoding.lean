import ScriptDefs.Text.Basic

/-!
# Texts as bytes

Bytes as texts in the common encodings, and texts as bytes. Every decoder gives the text up to the first
bytes that it cannot decode, and whether there were none.
-/

namespace ScriptDefs.Text

/-- The text in UTF-8, unless it holds a surrogate. -/
def toUtf8? (t : Text) : Option (List UInt8) := t.toString?.map fun s ↦ s.toUTF8.toList

/-- One code point put in front of what was decoded after it. -/
def decodedThen (n : Nat) (r : Text × Bool) : Text × Bool :=
  (.scalar (Char.ofNat n) :: r.1, r.2)

/-- The byte continues a sequence. -/
def isTrailing (b : UInt8) : Bool := 0x80 ≤ b && b ≤ 0xBF

/-- The second byte of a sequence fits its first byte: no overlong form, no surrogate and no number above
U+10FFFF comes of it. -/
def secondFits (first second : UInt8) : Bool :=
  isTrailing second &&
    (if first = 0xE0 then 0xA0 ≤ second
    else if first = 0xED then second ≤ 0x9F
    else if first = 0xF0 then 0x90 ≤ second
    else if first = 0xF4 then second ≤ 0x8F
    else true)

/-- Bytes in UTF-8. -/
def ofUtf8 : List UInt8 → Text × Bool
  | [] => ([], true)
  | b₀ :: t₀ =>
    if b₀ < 0x80 then decodedThen b₀.toNat (ofUtf8 t₀)
    else
      match t₀ with
      | [] => ([], false)
      | b₁ :: t₁ =>
        if !secondFits b₀ b₁ then ([], false)
        else if 0xC2 ≤ b₀ ∧ b₀ ≤ 0xDF then
          decodedThen ((b₀.toNat - 0xC0) * 0x40 + (b₁.toNat - 0x80)) (ofUtf8 t₁)
        else
          match t₁ with
          | [] => ([], false)
          | b₂ :: t₂ =>
            if !isTrailing b₂ then ([], false)
            else if 0xE0 ≤ b₀ ∧ b₀ ≤ 0xEF then
              decodedThen
                (((b₀.toNat - 0xE0) * 0x40 + (b₁.toNat - 0x80)) * 0x40 + (b₂.toNat - 0x80))
                (ofUtf8 t₂)
            else
              match t₂ with
              | [] => ([], false)
              | b₃ :: t₃ =>
                if isTrailing b₃ ∧ 0xF0 ≤ b₀ ∧ b₀ ≤ 0xF4 then
                  decodedThen
                    ((((b₀.toNat - 0xF0) * 0x40 + (b₁.toNat - 0x80)) * 0x40 +
                      (b₂.toNat - 0x80)) * 0x40 + (b₃.toNat - 0x80))
                    (ofUtf8 t₃)
                else ([], false)

/-- A code unit of two bytes in one of the two orders. -/
def unitOf (bigEndian : Bool) (a b : UInt8) : Nat :=
  if bigEndian then a.toNat * 256 + b.toNat else b.toNat * 256 + a.toNat

/-- Bytes in UTF-16. The unit after a leading surrogate counts by its lowest ten bits, whatever it is. -/
def ofUtf16 (bigEndian : Bool) : List UInt8 → Text × Bool
  | [] => ([], true)
  | [_] => ([], false)
  | a :: b :: t =>
    let unit := unitOf bigEndian a b
    if 0xDC00 ≤ unit ∧ unit < 0xE000 then ([], false)
    else if 0xD800 ≤ unit ∧ unit < 0xDC00 then
      match t with
      | c :: d :: t' =>
        let low := unitOf bigEndian c d % 0x400
        decodedThen (0x10000 + (unit - 0xD800) * 0x400 + low) (ofUtf16 bigEndian t')
      | _ => ([], false)
    else decodedThen unit (ofUtf16 bigEndian t)

/-- Bytes of an encoding with one byte for each code point, given by its code points. -/
def ofSingleBytes (codePoint? : UInt8 → Option Nat) : List UInt8 → Text × Bool
  | [] => ([], true)
  | b :: t =>
    match codePoint? b with
    | some n => decodedThen n (ofSingleBytes codePoint? t)
    | none => ([], false)

/-- Line breaks of all kinds as single line feeds. -/
def unifyLineBreaks : Text → Text
  | [] => []
  | .scalar '\r' :: .scalar '\n' :: t => .scalar '\n' :: unifyLineBreaks t
  | .scalar '\r' :: t => .scalar '\n' :: unifyLineBreaks t
  | c :: t => c :: unifyLineBreaks t

end ScriptDefs.Text
