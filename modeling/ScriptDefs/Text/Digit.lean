import ScriptDefs.Text.Basic

/-!
# Digits

The decimal digits of all scripts, the ASCII digits and the hexadecimal digits, with the number
that a run of digits denotes.
-/

namespace ScriptDefs

namespace CodePoint

/-- The digit zero of each decimal numeral system, as of Unicode 14; the nine others follow it. -/
def digitZeros : List Nat :=
  [
    0x30, 0x660, 0x6F0, 0x7C0, 0x966, 0x9E6, 0xA66, 0xAE6, 0xB66, 0xBE6, 0xC66, 0xCE6, 0xD66,
    0xDE6, 0xE50, 0xED0, 0xF20, 0x1040, 0x1090, 0x17E0, 0x1810, 0x1946, 0x19D0, 0x1A80, 0x1A90,
    0x1B50, 0x1BB0, 0x1C40, 0x1C50, 0xA620, 0xA8D0, 0xA900, 0xA9D0, 0xA9F0, 0xAA50, 0xABF0,
    0xFF10, 0x104A0, 0x10D30, 0x11066, 0x110F0, 0x11136, 0x111D0, 0x112F0, 0x11450, 0x114D0,
    0x11650, 0x116C0, 0x11730, 0x118E0, 0x11950, 0x11C50, 0x11D50, 0x11DA0, 0x16A60, 0x16AC0,
    0x16B50, 0x1D7CE, 0x1D7D8, 0x1D7E2, 0x1D7EC, 0x1D7F6, 0x1E140, 0x1E2F0, 0x1E950, 0x1FBF0
  ]

/-- The value of a decimal digit of any script. -/
def digit? (c : CodePoint) : Option Nat :=
  (digitZeros.find? fun z ↦ z ≤ c.toNat && c.toNat < z + 10).map (c.toNat - ·)

/-- The code point is a decimal digit of some script. -/
def isDigit (c : CodePoint) : Bool := c.digit?.isSome

/-- The value of an ASCII digit. -/
def asciiDigit? (c : CodePoint) : Option Nat :=
  if 0x30 ≤ c.toNat ∧ c.toNat ≤ 0x39 then some (c.toNat - 0x30) else none

/-- The value of an ASCII hexadecimal digit, in either letter case. -/
def hexDigit? (c : CodePoint) : Option Nat :=
  if 0x30 ≤ c.toNat ∧ c.toNat ≤ 0x39 then some (c.toNat - 0x30)
  else if 0x41 ≤ c.toNat ∧ c.toNat ≤ 0x46 then some (c.toNat - 0x37)
  else if 0x61 ≤ c.toNat ∧ c.toNat ≤ 0x66 then some (c.toNat - 0x57)
  else none

end CodePoint

namespace Text

/-- The longest beginning whose code points have a digit value, as those values, and the rest. -/
def spanDigits (value? : CodePoint → Option Nat) : Text → List Nat × Text
  | [] => ([], [])
  | c :: t =>
    match value? c with
    | some d =>
      let (ds, rest) := spanDigits value? t
      (d :: ds, rest)
    | none => ([], c :: t)

/-- The number that digits denote in a base, the most significant first. -/
def numberOf (base : Nat) (digits : List Nat) : Nat := digits.foldl (fun n d ↦ n * base + d) 0

/-- One hexadecimal digit, in lower case. -/
def hexDigit (n : Nat) : CodePoint :=
  .scalar (if n < 10 then Char.ofNat (0x30 + n) else Char.ofNat (0x57 + n))

/-- The lowest `width` hexadecimal digits of a number, in lower case. -/
def hexDigits : Nat → Nat → Text
  | 0, _ => []
  | width + 1, n => hexDigits width (n / 16) ++ [hexDigit (n % 16)]

end Text

end ScriptDefs
