import ScriptDefs.Number.Notation
import ScriptDefs.Text.Quoted

/-!
# Faults of YAML documents

Why a document has no value: its form is broken, or one of its scalars does not fit the type that it
claims to have.
-/

namespace ScriptDefs.Yaml

/-- A part of a date or of a time is out of its range. -/
inductive CalendarFault where
  | year (n : Nat)
  | month
  | day
  | hour
  | minute
  | second
  /-- The distance to universal time is a day or more, shown as an expression. -/
  | offset (shown : Text)
  deriving DecidableEq, Repr

/-- The wording of a part out of its range. -/
def CalendarFault.message : CalendarFault → Text
  | .year n => Text.ofString "year " ++ Text.ofNat n ++ Text.ofString " is out of range"
  | .month => "month must be in 1..12"
  | .day => "day is out of range for month"
  | .hour => "hour must be in 0..23"
  | .minute => "minute must be in 0..59"
  | .second => "second must be in 0..59"
  | .offset shown =>
    Text.ofString "offset must be a timedelta strictly between -timedelta(hours=24) and " ++
      Text.ofString "timedelta(hours=24), not " ++ shown ++ [.scalar '.']

/-- Why a document has no value. -/
inductive Fault where
  /-- The form of the document is broken, or a tag has no meaning. -/
  | malformed
  | digitLimit (e : DigitLimit)
  | notInteger (base : Nat) (t : Text)
  | notNumber (t : Text)
  /-- A number without any digits. -/
  | noDigits
  /-- A number with too many places of base sixty. -/
  | tooManyPlaces
  | notTruth (t : Text)
  | notTimestamp (t : Text)
  | calendar (e : CalendarFault)
  /-- An escape that names no code point. -/
  | noCodePoint (n : Nat)
  /-- The scalar that a mapping stands for is the one that the mapping itself stands for. -/
  | endless
  /-- A timestamp is asked for where there is no scalar. -/
  | notScalar
  deriving DecidableEq, Repr

/-- The most characters of a refused numeral that are shown. -/
def shownLength : Nat := 200

/-- The wording of a value that does not fit its type, where there is one. -/
def Fault.message? : Fault → Option Text
  | .digitLimit e => some e.message
  | .notInteger base t =>
    some (Text.ofString "invalid literal for int() with base " ++ Text.ofNat base ++
      Text.ofString ": " ++ t.quoted.take shownLength)
  | .notNumber t => some (Text.ofString "could not convert string to float: " ++ t.quoted)
  | .calendar e => some e.message
  | .noCodePoint n => if n < Nat.pow 2 31 then some "chr() arg not in range(0x110000)" else none
  | _ => none

end ScriptDefs.Yaml
