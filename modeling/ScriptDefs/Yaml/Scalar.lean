import ScriptDefs.Number.Numeral
import ScriptDefs.Text.Base64
import ScriptDefs.Yaml.Timestamp

/-!
# Values of scalars

The value that the text of a scalar has as a member of its type.
-/

namespace ScriptDefs.Yaml

/-- The value of a digit of a base, decimal in any script or a letter. -/
def digitBelow? (base : Nat) (c : CodePoint) : Option Nat :=
  (c.digit? <|> c.hexDigit?).filter (· < base)

/-- The letter that may stand between a zero and the digits of a base. -/
def radixLetters (base : Nat) : List Char :=
  match base with
  | 2 => ['b', 'B']
  | 8 => ['o', 'O']
  | 16 => ['x', 'X']
  | _ => []

/-- The text without a zero and the letter of a base in front. -/
def withoutRadix (base : Nat) (t : Text) : Text :=
  match t with
  | .scalar '0' :: .scalar c :: rest => if (radixLetters base).contains c then rest else t
  | _ => t

/-- The number that digits of a base denote. Only decimal digits can be too many. -/
def naturalOf (base : Nat) (digits : List Nat) : Except Fault Nat :=
  if base = 10 then (DigitLimit.numberOf digits).mapError .digitLimit
  else .ok (Text.numberOf base digits)

/-- The integer that digits of a base denote, with a sign in front and white space around. The number of
digits is checked before what follows them. -/
def integerOf (base : Nat) (t : Text) : Except Fault Int := do
  let (negative, body) := Text.takeSign t.withoutMargins
  let (digits, rest) := Text.spanDigits (digitBelow? base) (withoutRadix base body)
  let n ← naturalOf base digits
  if digits.isEmpty || !rest.isEmpty then throw (.notInteger base t)
  return Text.signedInt negative n

/-- The text without underscores. -/
def withoutUnderscores (t : Text) : Text := t.filter (· ≠ .scalar '_')

/-- A minus sign stands in front. -/
def isNegative (t : Text) : Bool := t.head? = some (.scalar '-')

/-- The value of an integer. -/
def intOf (t : Text) : Except Fault Int := do
  let t := withoutUnderscores t
  let sign : Int := if isNegative t then -1 else 1
  let body := withoutSign t
  match body with
  | [] => throw .noDigits
  | [.scalar '0'] => return 0
  | .scalar '0' :: .scalar 'b' :: rest => return sign * (← integerOf 2 rest)
  | .scalar '0' :: .scalar 'x' :: rest => return sign * (← integerOf 16 rest)
  | .scalar '0' :: _ => return sign * (← integerOf 8 body)
  | _ =>
    let places ← (Text.splitOn (.scalar ':') body).mapM (integerOf 10)
    return sign * places.foldl (fun n d ↦ 60 * n + d) 0

/-- The number that a numeral denotes. -/
def numberOf (t : Text) : Except Fault Binary64 :=
  match t.toBinary64? with
  | some x => .ok x
  | none => .error (.notNumber t)

/-- The number with places of base sixty, the last first, added up from the last. -/
def ofPlaces (sum : Binary64) (weight : Nat) : List Binary64 → Except Fault Binary64
  | [] => .ok sum
  | x :: rest =>
    let w := Binary64.ofInt weight
    if w.isFinite then ofPlaces (sum.add (x.mul w)) (60 * weight) rest else .error .tooManyPlaces

/-- A word for a number, with or without a sign. -/
def isNumberWord (word : String) (t : Text) : Bool :=
  withoutSign (withoutUnderscores t).lower = Text.ofString word

/-- The text is the word for not-a-number. -/
def isNanWord (t : Text) : Bool := isNumberWord ".nan" t

/-- The value of a number. -/
def floatOf (t : Text) : Except Fault Binary64 := do
  let body := withoutSign (withoutUnderscores t).lower
  if (withoutUnderscores t).isEmpty then throw .noDigits
  let negative := isNegative (withoutUnderscores t)
  let signed (x : Binary64) : Binary64 := if negative then x.mul (Binary64.ofInt (-1)) else x
  if isNumberWord ".inf" t then return signed (.infinite false)
  else if isNanWord t then return .nan
  else
    match Text.splitOn (.scalar ':') body with
    | [single] => return signed (← numberOf single)
    | places => return signed (← ofPlaces Binary64.zero 1 (← places.mapM numberOf).reverse)

/-- The value of a word for truth or falsehood, in any letter case. -/
def truthOf (t : Text) : Except Fault Bool :=
  let word := t.lower
  if trueWords.contains word then .ok true
  else if falseWords.contains word then .ok false
  else .error (.notTruth t)

/-- The value of a timestamp. -/
def timestampOf (t : Text) : Except Fault Scalar :=
  match readTimestamp? t with
  | some w => w.toScalar.mapError .calendar
  | none => .error (.notTimestamp t)

/-- The bytes that a text in ASCII stands for. -/
def bytesOf (t : Text) : Except Fault (List UInt8) :=
  match Text.Base64.decode? t with
  | some bytes => if t.all fun c ↦ c.toNat < 0x80 then .ok bytes else .error .malformed
  | none => .error .malformed

/-- The value of a text as a member of a type. -/
def scalarOf (tag : Tag) (t : Text) : Except Fault Scalar :=
  match tag with
  | .null => .ok .null
  | .bool => do return .bool (← truthOf t)
  | .int => do return .int (← intOf t)
  | .float => do return .float (← floatOf t)
  | .timestamp => timestampOf t
  | .str => .ok (.text t)
  | .binary => do return .bytes (← bytesOf t)
  | _ => .error .malformed

end ScriptDefs.Yaml
