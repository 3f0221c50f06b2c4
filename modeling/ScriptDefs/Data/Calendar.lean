import ScriptDefs.Text.Digit

/-!
# Dates and times

Calendar dates and moments of day, with their texts. Data read from indented documents can hold them.
-/

namespace ScriptDefs

/-- A date of the Gregorian calendar. -/
structure Date where
  year : Nat
  month : Nat
  day : Nat
  deriving DecidableEq, Repr

/-- A date and a time of day, with the distance to universal time in seconds if it is known. -/
structure Moment where
  date : Date
  hour : Nat
  minute : Nat
  second : Nat
  microsecond : Nat
  offset : Option Int
  deriving DecidableEq, Repr

namespace Text

/-- The number in decimal digits, filled up with zeros from the left to a width. -/
def padded (width n : Nat) : Text :=
  let digits := ofNat n
  List.replicate (width - digits.length) (.scalar '0') ++ digits

/-- Numbers in decimal digits between parentheses, after a name. -/
def call (name : Text) (arguments : List Text) : Text :=
  name ++ (.scalar '(' :: joinWith ", " arguments) ++ [.scalar ')']

end Text

namespace Date

/-- Leap years of the Gregorian calendar. -/
def isLeap (year : Nat) : Bool := year % 4 = 0 && (year % 100 ≠ 0 || year % 400 = 0)

/-- The number of days of a month. -/
def daysInMonth (year month : Nat) : Nat :=
  if month = 2 then if isLeap year then 29 else 28
  else if month = 4 ∨ month = 6 ∨ month = 9 ∨ month = 11 then 30 else 31

/-- The days before a year, the first day of year one being day one. -/
def daysBeforeYear (year : Nat) : Nat :=
  let y := year - 1
  365 * y + y / 4 - y / 100 + y / 400

/-- The number of a date when days are counted from the first day of year one. -/
def ordinal (d : Date) : Nat :=
  daysBeforeYear d.year +
    ((List.range d.month).drop 1).foldl (fun n m ↦ n + daysInMonth d.year m) 0 + d.day

/-- Year, month and day with hyphens between them. -/
def toText (d : Date) : Text :=
  Text.padded 4 d.year ++ .scalar '-' :: Text.padded 2 d.month ++ .scalar '-' :: Text.padded 2 d.day

/-- The date as an expression. -/
def toExpression (d : Date) : Text :=
  Text.call "datetime.date" [Text.ofNat d.year, Text.ofNat d.month, Text.ofNat d.day]

end Date

namespace Moment

/-- A distance to universal time as hours and minutes, and seconds if there are any. -/
def offsetText (seconds : Int) : Text :=
  let n := seconds.natAbs
  .scalar (if seconds < 0 then '-' else '+') :: Text.padded 2 (n / 3600) ++
    .scalar ':' :: Text.padded 2 (n / 60 % 60) ++
    (if n % 60 = 0 then [] else .scalar ':' :: Text.padded 2 (n % 60))

/-- The date, then the time; a fraction of a second and an offset only if there are any. -/
def toText (m : Moment) : Text :=
  m.date.toText ++ .scalar ' ' :: Text.padded 2 m.hour ++ .scalar ':' :: Text.padded 2 m.minute ++
    .scalar ':' :: Text.padded 2 m.second ++
    (if m.microsecond = 0 then [] else .scalar '.' :: Text.padded 6 m.microsecond) ++
    (match m.offset with
      | none => []
      | some s => offsetText s)

/-- A length of time as an expression: whole days, possibly negative, and seconds of a day. -/
def durationExpression (seconds : Int) : Text :=
  let days := seconds.fdiv 86400
  let rest := (seconds.fmod 86400).toNat
  Text.call "datetime.timedelta"
    ((if days = 0 then [] else [("days=" : Text) ++ Text.ofInt days]) ++
      (if rest = 0 then [] else [("seconds=" : Text) ++ Text.ofNat rest]) ++
      (if days = 0 ∧ rest = 0 then [("0" : Text)] else []))

/-- The moment as an expression; seconds and fractions only if there are any. -/
def toExpression (m : Moment) : Text :=
  let parts :=
    [m.date.year, m.date.month, m.date.day, m.hour, m.minute] ++
      (if m.microsecond ≠ 0 then [m.second, m.microsecond]
      else if m.second ≠ 0 then [m.second] else [])
  Text.call "datetime.datetime"
    (parts.map Text.ofNat ++
      (match m.offset with
        | none => []
        | some 0 => [("tzinfo=datetime.timezone.utc" : Text)]
        | some s =>
          [("tzinfo=" : Text) ++ Text.call "datetime.timezone" [durationExpression s]]))

/-- Microseconds since the start of year one, at universal time if the offset is known. -/
def instant (m : Moment) : Int :=
  ((((m.date.ordinal * 24 + m.hour) * 60 + m.minute) * 60 + m.second : Nat) - m.offset.getD 0) *
    1000000 + m.microsecond

/-- Two moments name the same instant; a known and an unknown offset never do. -/
def sameInstant (a b : Moment) : Bool :=
  a.offset.isSome == b.offset.isSome && a.instant == b.instant

end Moment

end ScriptDefs
