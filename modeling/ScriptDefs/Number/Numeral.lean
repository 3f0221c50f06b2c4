import ScriptDefs.Text.Blank
import ScriptDefs.Text.Case
import ScriptDefs.Number.Notation

/-!
# Numerals at the start of a text

Integer and floating-point numerals are read from the beginning of a text, as far as they reach;
whatever follows does not matter. Digits of every script count.
-/

namespace ScriptDefs

/-- A decimal numeral: its sign, the digits before and after the point, and the exponent. -/
structure Numeral where
  negative : Bool
  whole : List Nat
  fraction : List Nat
  exponent : Int
  deriving DecidableEq, Repr

namespace Numeral

/-- The floating-point number nearest to what a numeral denotes. -/
def toBinary64 (x : Numeral) : Binary64 :=
  .ofDecimal x.negative (Text.numberOf 10 (x.whole ++ x.fraction)) (x.exponent - x.fraction.length)

end Numeral

namespace Text

/-- Whether a minus sign stands in front, and the text after the sign, which may be missing. -/
def takeSign : Text → Bool × Text
  | .scalar '-' :: t => (true, t)
  | .scalar '+' :: t => (false, t)
  | t => (false, t)

/-- An integer with a sign. -/
def signedInt (negative : Bool) (n : Nat) : Int := if negative then -n else n

/-- The exponent at the start of a text, if it is complete, and the rest. -/
def leadingExponent (value? : CodePoint → Option Nat) (t : Text) : Int × Text :=
  match t with
  | .scalar e :: t' =>
    if e = 'e' ∨ e = 'E' then
      let (negative, t'') := takeSign t'
      match spanDigits value? t'' with
      | ([], _) => (0, t)
      | (ds, rest) => (signedInt negative (numberOf 10 ds), rest)
    else (0, t)
  | _ => (0, t)

/-- The digits after a point at the start of a text, and the rest; without a point there are none. -/
def leadingFraction (value? : CodePoint → Option Nat) : Text → List Nat × Text
  | .scalar '.' :: t => spanDigits value? t
  | t => ([], t)

/-- The longest numeral at the start of a text, and the rest: a sign or none, digits with a point
among, before or after them, and an exponent or none. -/
def leadingNumeral? (value? : CodePoint → Option Nat) (t : Text) : Option (Numeral × Text) :=
  let (negative, t₁) := takeSign t
  let (whole, t₂) := spanDigits value? t₁
  let (fraction, t₃) := leadingFraction value? t₂
  if whole.isEmpty ∧ fraction.isEmpty then none
  else
    let (exponent, rest) := leadingExponent value? t₃
    some (⟨negative, whole, fraction, exponent⟩, rest)

/-- The digits after `0x` or `0X` at the start of a text, if there are any. -/
def leadingHex? : Text → Option (List Nat)
  | .scalar '0' :: .scalar x :: t =>
    if x = 'x' ∨ x = 'X' then
      match (spanDigits CodePoint.hexDigit? t).1 with
      | [] => none
      | ds => some ds
    else none
  | _ => none

/-- The integer at the start of a text, after white space: hexadecimal after `0x`, else decimal. -/
def leadingInt? (t : Text) : Except DigitLimit (Option Int) := do
  let (negative, digits) := takeSign t.trimStart
  match leadingHex? digits with
  | some ds => return some (signedInt negative (numberOf 16 ds))
  | none =>
    match (spanDigits CodePoint.digit? digits).1 with
    | [] => return none
    | ds => return some (signedInt negative (← DigitLimit.numberOf ds))

/-- The floating-point number at the start of a text, after white space, if there is one and it is
finite. -/
def leadingFloat? (t : Text) : Option Binary64 := do
  let (x, _) ← leadingNumeral? CodePoint.digit? t.trimStart
  let value := x.toBinary64
  if value.isFinite then some value else none

/-- The text as a whole is a floating-point numeral, between white space: digits, or a word for an
infinite number or for not-a-number. -/
def toBinary64? (t : Text) : Option Binary64 :=
  let body := t.withoutMargins
  match leadingNumeral? CodePoint.digit? body with
  | some (x, []) => some x.toBinary64
  | _ =>
    let (negative, word) := takeSign body
    let word := word.lower
    if word = ofString "inf" ∨ word = ofString "infinity" then some (.infinite negative)
    else if word = ofString "nan" then some .nan
    else none

end Text

end ScriptDefs
