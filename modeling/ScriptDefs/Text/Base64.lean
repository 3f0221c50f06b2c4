import ScriptDefs.Text.Basic

/-!
# Bytes as digits of base 64

Four digits stand for three bytes. Padding completes the last group, and all other characters are passed
over.
-/

namespace ScriptDefs.Text.Base64

/-- The value of a digit of base 64. -/
def digit? (c : CodePoint) : Option Nat :=
  let n := c.toNat
  if 65 ≤ n ∧ n ≤ 90 then some (n - 65)
  else if 97 ≤ n ∧ n ≤ 122 then some (n - 71)
  else if 48 ≤ n ∧ n ≤ 57 then some (n + 4)
  else if n = 43 then some 62
  else if n = 47 then some 63
  else none

/-- The bytes of the rest of a text: `place` digits of a group have been read, `held` is what of the last of
them belongs to the next byte, and `pads` signs of padding follow them. A group that is not complete has no
bytes. -/
def decodeFrom (place held pads : Nat) : Text → Option (List UInt8)
  | [] => if place = 0 then some [] else none
  | c :: t =>
    if c = .scalar '=' then
      if place < 2 then decodeFrom place held pads t
      else if 4 ≤ place + pads + 1 then some []
      else decodeFrom place held (pads + 1) t
    else
      match digit? c with
      | none => decodeFrom place held pads t
      | some d =>
        match place with
        | 0 => decodeFrom 1 d 0 t
        | 1 => (decodeFrom 2 (d % 16) 0 t).map (UInt8.ofNat (held * 4 + d / 16) :: ·)
        | 2 => (decodeFrom 3 (d % 4) 0 t).map (UInt8.ofNat (held * 16 + d / 4) :: ·)
        | _ => (decodeFrom 0 0 0 t).map (UInt8.ofNat (held * 64 + d) :: ·)

/-- The bytes that a text stands for, unless it ends within a group. -/
def decode? (t : Text) : Option (List UInt8) := decodeFrom 0 0 0 t

end ScriptDefs.Text.Base64
