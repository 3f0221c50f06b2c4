import ScriptDefs.Text.Digit
import ScriptDefs.Number.Shortest

/-!
# Number notation

How numbers are written: integers in decimal digits, up to a limit; floating-point numbers in their
shortest digits, with a point or an exponent.
-/

namespace ScriptDefs

/-- A number has more decimal digits than are converted, when it is read or when it is written. -/
inductive DigitLimit where
  | reading (digits : Nat)
  | writing
  deriving DecidableEq, Repr

namespace DigitLimit

/-- The most decimal digits that are converted. -/
def limit : Nat := 4300

/-- The wording of the error. -/
def message (e : DigitLimit) : Text :=
  ("Exceeds the limit (4300 digits) for integer string conversion" : Text) ++
    (match e with
      | .reading n => (": value has " : Text) ++ Text.ofNat n ++ (" digits" : Text)
      | .writing => "") ++
    ("; use sys.set_int_max_str_digits() to increase the limit" : Text)

/-- The number that decimal digits denote, unless there are too many of them. -/
def numberOf (digits : List Nat) : Except DigitLimit Nat :=
  if limit < digits.length then .error (.reading digits.length)
  else .ok (Text.numberOf 10 digits)

/-- The integer in decimal digits, unless it has too many of them. -/
def integerText (n : Int) : Except DigitLimit Text :=
  if Nat.pow 10 limit ≤ n.natAbs then .error .writing else .ok (Text.ofInt n)

end DigitLimit

namespace Binary64

/-- How infinite numbers and not-a-number are written. -/
structure NonFiniteNames where
  infinity : Text
  nan : Text
  deriving DecidableEq, Repr

/-- The names in messages and in running text. -/
def plainNames : NonFiniteNames := ⟨"inf", "nan"⟩

/-- Leading-digit exponents from here on are written with an exponent. -/
def exponentFrom : Int := 16

/-- Leading-digit exponents below this one are written with an exponent. -/
def exponentBelow : Int := -4

/-- Digits with a point after the first `whole` of them, and at least one digit on either side. -/
def positional (digits : Text) (whole : Int) : Text :=
  if whole ≤ 0 then ("0." : Text) ++ List.replicate (-whole).toNat (.scalar '0') ++ digits
  else
    let n := whole.toNat
    if digits.length ≤ n then
      digits ++ List.replicate (n - digits.length) (.scalar '0') ++ (".0" : Text)
    else digits.take n ++ .scalar '.' :: digits.drop n

/-- An exponent: its sign, then two digits at least. -/
def exponentText (e : Int) : Text :=
  .scalar 'e' :: .scalar (if e < 0 then '-' else '+') ::
    (if e.natAbs < 10 then .scalar '0' :: Text.ofNat e.natAbs else Text.ofNat e.natAbs)

/-- One digit before the point, the others after it, then the exponent. -/
def scientific (digits : Text) (e : Int) : Text :=
  (match digits with
    | d :: more@(_ :: _) => d :: .scalar '.' :: more
    | few => few) ++ exponentText e

/-- A finite magnitude in its shortest digits. -/
def magnitudeText (rank : Nat) : Text :=
  let x := shortest rank
  let digits := Text.ofNat x.coefficient
  let lead : Int := x.exponent + digits.length - 1
  if lead < exponentBelow ∨ exponentFrom ≤ lead then scientific digits lead
  else positional digits (lead + 1)

/-- A minus sign before a text if asked for. -/
def signed (negative : Bool) (t : Text) : Text := if negative then .scalar '-' :: t else t

/-- The number as text. -/
def toText (names : NonFiniteNames) : Binary64 → Text
  | .finite s r => signed s (magnitudeText r)
  | .infinite s => signed s names.infinity
  | .nan => names.nan

end Binary64

end ScriptDefs
