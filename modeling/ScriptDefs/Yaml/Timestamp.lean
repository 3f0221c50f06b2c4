import ScriptDefs.Data.Basic
import ScriptDefs.Yaml.Fault
import ScriptDefs.Yaml.Tag

/-!
# Timestamps

Dates, and dates with a time of day, as they are written in scalars.
-/

namespace ScriptDefs.Yaml

/-- A distance to universal time as it is written. -/
structure WrittenOffset where
  negative : Bool
  hours : Nat
  minutes : Nat
  deriving DecidableEq, Repr

/-- A time of day as it is written. -/
structure WrittenTime where
  hour : Nat
  minute : Nat
  second : Nat
  fraction : List Nat
  offset : Option WrittenOffset
  deriving DecidableEq, Repr

/-- A timestamp as it is written. -/
structure WrittenTimestamp where
  year : Nat
  month : Nat
  day : Nat
  /-- Month and day have two digits each. -/
  full : Bool
  time : Option WrittenTime
  deriving DecidableEq, Repr

/-- A number of at least `least` and at most `most` digits, and how many it has. -/
def readDigits? (least most : Nat) (t : Text) : Option ((Nat × Nat) × Text) :=
  let digits := (Text.spanDigits CodePoint.asciiDigit? (t.take most)).1
  if least ≤ digits.length then
    some ((Text.numberOf 10 digits, digits.length), t.drop digits.length)
  else none

/-- A certain character. -/
def readChar? (c : Char) : Text → Option Text
  | a :: t => if a = .scalar c then some t else none
  | [] => none

/-- The distance to universal time at the end of a text, if there is one. -/
def readOffset? (t : Text) : Option (Option WrittenOffset) :=
  match t.dropWhile fun c ↦ c = .scalar ' ' || c = .scalar '\t' with
  | [] => if t.isEmpty then some none else none
  | [.scalar 'Z'] => some (some ⟨false, 0, 0⟩)
  | .scalar s :: rest =>
    if s = '+' ∨ s = '-' then do
      let ((hours, _), rest) ← readDigits? 1 2 rest
      match rest with
      | [] => return some ⟨s = '-', hours, 0⟩
      | _ => do
        let ((minutes, _), rest) ← readDigits? 2 2 (← readChar? ':' rest)
        if rest.isEmpty then return some ⟨s = '-', hours, minutes⟩ else none
    else none
  | _ => none

/-- The time of day at the end of a text. -/
def readTime? (t : Text) : Option WrittenTime := do
  let ((hour, _), t) ← readDigits? 1 2 t
  let ((minute, _), t) ← readDigits? 2 2 (← readChar? ':' t)
  let ((second, _), t) ← readDigits? 2 2 (← readChar? ':' t)
  let (fraction, t) :=
    match t with
    | .scalar '.' :: rest => Text.spanDigits CodePoint.asciiDigit? rest
    | _ => ([], t)
  return { hour, minute, second, fraction, offset := ← readOffset? t }

/-- What stands between a date and a time, and the text after it. -/
def readDayGap? : Text → Option Text
  | .scalar c :: t =>
    if c = 'T' ∨ c = 't' then some t
    else if c = ' ' ∨ c = '\t' then
      some (t.dropWhile fun c ↦ c = .scalar ' ' || c = .scalar '\t')
    else none
  | _ => none

/-- A timestamp that is the whole text. -/
def readTimestamp? (t : Text) : Option WrittenTimestamp := do
  let ((year, _), t) ← readDigits? 4 4 (dropFinalBreak t)
  let ((month, m), t) ← readDigits? 1 2 (← readChar? '-' t)
  let ((day, d), t) ← readDigits? 1 2 (← readChar? '-' t)
  let full := m = 2 && d = 2
  match t with
  | [] => return { year, month, day, full, time := none }
  | _ => return { year, month, day, full, time := some (← readTime? (← readDayGap? t)) }

/-- Plain scalars of this form are timestamps: a date without a time has two digits in month and day. -/
def looksLikeTimestamp (t : Text) : Bool :=
  (readTimestamp? t).any fun w ↦ w.full || w.time.isSome

/-- The date with a year, a month and a day. -/
def dateOf (year month day : Nat) : Except CalendarFault Date :=
  if year = 0 then .error (.year year)
  else if month = 0 ∨ 12 < month then .error .month
  else if day = 0 ∨ Date.daysInMonth year month < day then .error .day
  else .ok ⟨year, month, day⟩

/-- Seconds of a distance to universal time, which is less than a day. -/
def WrittenOffset.toSeconds (o : WrittenOffset) : Except CalendarFault Int :=
  let n : Int := o.hours * 3600 + o.minutes * 60
  let seconds := if o.negative then -n else n
  if 86400 ≤ n then .error (.offset (Moment.durationExpression seconds)) else .ok seconds

/-- Microseconds of the digits after the point of a second. -/
def microseconds (digits : List Nat) : Nat :=
  Text.numberOf 10 ((digits ++ List.replicate 6 0).take 6)

/-- The value of a timestamp. -/
def WrittenTimestamp.toScalar (w : WrittenTimestamp) : Except CalendarFault Scalar :=
  match w.time with
  | none => do return .date (← dateOf w.year w.month w.day)
  | some t => do
    let offset ← t.offset.mapM WrittenOffset.toSeconds
    let date ← dateOf w.year w.month w.day
    if 23 < t.hour then throw .hour
    if 59 < t.minute then throw .minute
    if 59 < t.second then throw .second
    return .moment ⟨date, t.hour, t.minute, t.second, microseconds t.fraction, offset⟩

end ScriptDefs.Yaml
