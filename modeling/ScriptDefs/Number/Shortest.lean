import ScriptDefs.Number.Binary64

/-!
# Shortest decimals

The decimal with the fewest digits among those that round to a given binary64 magnitude, and of these
the one nearest to it. The digits are found by trying one digit, two digits and so on: on each decimal
grid only the two neighbours of the magnitude have to be looked at.
-/

namespace ScriptDefs

/-- The number `coefficient * 10 ^ exponent`. -/
structure Decimal where
  coefficient : Nat
  exponent : Int
  deriving DecidableEq, Repr

namespace Decimal

/-- Numerator and denominator of a decimal. -/
def toQuotient (x : Decimal) : Nat × Nat :=
  if 0 ≤ x.exponent then (x.coefficient * Nat.pow 10 x.exponent.toNat, 1)
  else (x.coefficient, Nat.pow 10 (-x.exponent).toNat)

/-- Trailing zeros moved into the exponent, at most `fuel` of them. -/
def stripZeros : Nat → Decimal → Decimal
  | 0, x => x
  | fuel + 1, x =>
    if x.coefficient ≠ 0 ∧ x.coefficient % 10 = 0 then
      stripZeros fuel ⟨x.coefficient / 10, x.exponent + 1⟩
    else x

end Decimal

namespace Binary64

/-- A quotient lies between the midpoints to the neighbouring magnitudes, the ends counting for an
even rank: exactly then it rounds to the magnitude. -/
def roundsTo (rank : Nat) (q : Nat × Nat) : Bool :=
  let low := (units (rank - 1) + units rank) * q.2
  let value := q.1 * Nat.pow 2 1075
  let high := (units rank + units (rank + 1)) * q.2
  if rank % 2 = 0 then low ≤ value && value ≤ high else low < value && value < high

/-- The exponent of the leading decimal digit of a positive magnitude. -/
def leadingExponent (rank : Nat) : Int :=
  let whole := units rank / Nat.pow 2 1074
  if whole ≠ 0 then decimalLength whole - 1
  else -(decimalLength ((Nat.pow 2 1074 - 1) / units rank) : Int)

/-- The better of the two decimals with `digits` digits next to a magnitude, if one rounds to it. -/
def decimalWith? (rank digits : Nat) : Option Decimal :=
  let exponent := leadingExponent rank - (digits - 1 : Nat)
  let step := Decimal.toQuotient ⟨1, exponent⟩
  let n := units rank * step.2
  let d := step.1 * Nat.pow 2 1074
  let below := n / d
  let fits (c : Nat) := roundsTo rank (Decimal.toQuotient ⟨c, exponent⟩)
  match fits below, fits (below + 1) with
  | true, false => some ⟨below, exponent⟩
  | false, true => some ⟨below + 1, exponent⟩
  | true, true => some ⟨roundedQuotient n d, exponent⟩
  | false, false => none

/-- Precisions tried from `digits` on; seventeen digits always suffice. -/
def shortestFrom (rank digits : Nat) : Nat → Decimal
  | 0 => ⟨units rank, 0⟩
  | fuel + 1 => (decimalWith? rank digits).getD (shortestFrom rank (digits + 1) fuel)

/-- The shortest decimal of a finite magnitude; zero is a single digit. -/
def shortest (rank : Nat) : Decimal :=
  if rank = 0 then ⟨0, 0⟩ else (shortestFrom rank 1 17).stripZeros 20

end Binary64

end ScriptDefs
