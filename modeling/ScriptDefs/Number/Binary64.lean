/-!
# Binary floating-point numbers

Numbers of the IEEE 754 format binary64. A finite number is a sign and the rank of its magnitude among
all finite magnitudes in increasing order, so that each number has one representation; there is a
single not-a-number. Rounding is exact arithmetic on natural numbers: to the nearest magnitude, a tie
going to the even rank.
-/

namespace ScriptDefs

-- Powers are written `Nat.pow`, since the instance behind `^` depends on what is imported.

/-- A binary64 number. -/
inductive Binary64 where
  | finite (negative : Bool) (rank : Fin (2047 * Nat.pow 2 52))
  | infinite (negative : Bool)
  | nan
  deriving DecidableEq, Repr

namespace Binary64

/-- Positive zero. -/
def zero : Binary64 := .finite false 0

instance : Inhabited Binary64 := ⟨zero⟩

/-- The magnitude with a rank, in units of 2⁻¹⁰⁷⁴. Ranks below 2⁵³ are their own magnitude; from there
on every 2⁵² ranks the distance between neighbours doubles. -/
def units (rank : Nat) : Nat :=
  if rank < Nat.pow 2 52 then rank
  else (Nat.pow 2 52 + rank % Nat.pow 2 52) * Nat.pow 2 (rank / Nat.pow 2 52 - 1)

/-- A quotient rounded to the nearest natural number, a half going to the even one. -/
def roundedQuotient (n d : Nat) : Nat :=
  if d < 2 * (n % d) ∨ (d = 2 * (n % d) ∧ n / d % 2 = 1) then n / d + 1 else n / d

/-- The rank of the magnitude nearest to `n / d` units; it may be one past the finite ranks and more. -/
def nearestRank (n d : Nat) : Nat :=
  let shift := (n / d).log2 - 52
  shift * Nat.pow 2 52 + roundedQuotient n (d * Nat.pow 2 shift)

/-- The number with a sign and a rank, infinite if the rank is that of no finite number. -/
def ofRank (negative : Bool) (rank : Nat) : Binary64 :=
  if h : rank < 2047 * Nat.pow 2 52 then .finite negative ⟨rank, h⟩ else .infinite negative

/-- The number nearest to `n / d`, with a sign. -/
def ofQuotient (negative : Bool) (n d : Nat) : Binary64 :=
  ofRank negative (nearestRank (n * Nat.pow 2 1074) d)

/-- The number of decimal digits of a positive natural number. -/
def decimalLength (n : Nat) : Nat := (Nat.toDigits 10 n).length

/-- The number nearest to `coefficient * 10 ^ exponent`, with a sign. Exponents far outside the range
are decided without computing the power. -/
def ofDecimal (negative : Bool) (coefficient : Nat) (exponent : Int) : Binary64 :=
  if coefficient = 0 then .finite negative 0
  else
    let length : Int := decimalLength coefficient
    if 310 < length + exponent then .infinite negative
    else if length + exponent < -330 then .finite negative 0
    else if 0 ≤ exponent then ofQuotient negative (coefficient * Nat.pow 10 exponent.toNat) 1
    else ofQuotient negative coefficient (Nat.pow 10 (-exponent).toNat)

/-- The number nearest to an integer. -/
def ofInt (n : Int) : Binary64 := ofQuotient (n < 0) n.natAbs 1

/-- The number is neither infinite nor not-a-number. -/
def isFinite : Binary64 → Bool
  | .finite _ _ => true
  | _ => false

/-- The number is zero, of either sign. -/
def isZero : Binary64 → Bool
  | .finite _ r => r = 0
  | _ => false

/-- A finite number as an integer count of units. -/
def toUnits? : Binary64 → Option Int
  | .finite false r => some (units r)
  | .finite true r => some (-(units r : Int))
  | _ => none

/-- The integer that a number is, if it is one. -/
def toInt? (x : Binary64) : Option Int := do
  let u ← x.toUnits?
  if u % Nat.pow 2 1074 = 0 then some (u / Nat.pow 2 1074) else none

/-- The product, rounded. -/
def mul : Binary64 → Binary64 → Binary64
  | .nan, _ => .nan
  | _, .nan => .nan
  | .infinite s, .infinite t => .infinite (s != t)
  | .infinite s, .finite t r => if r = 0 then .nan else .infinite (s != t)
  | .finite t r, .infinite s => if r = 0 then .nan else .infinite (s != t)
  | .finite s q, .finite t r => ofRank (s != t) (nearestRank (units q * units r) (Nat.pow 2 1074))

/-- The sum, rounded; zeros of both signs add up to positive zero. -/
def add : Binary64 → Binary64 → Binary64
  | .nan, _ => .nan
  | _, .nan => .nan
  | .infinite s, .infinite t => if s = t then .infinite s else .nan
  | .infinite s, .finite _ _ => .infinite s
  | .finite _ _, .infinite t => .infinite t
  | .finite s q, .finite t r =>
    if s = t then ofRank s (nearestRank (units q + units r) 1)
    else if units r < units q then ofRank s (nearestRank (units q - units r) 1)
    else if units q < units r then ofRank t (nearestRank (units r - units q) 1)
    else zero

end Binary64

end ScriptDefs
