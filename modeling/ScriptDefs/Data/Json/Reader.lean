import ScriptDefs.Data.Assoc
import ScriptDefs.Data.Basic
import ScriptDefs.Number.Numeral

/-!
# Reading JSON

JSON text as plain data. A number with a point or an exponent is a floating-point number, any other an
integer; the words for infinite numbers and not-a-number are accepted; of entries with one key the
last value counts, at the place of the first.
-/

namespace ScriptDefs.Json

/-- Why a text cannot be read. -/
inductive ReadError where
  | malformed
  | digitLimit (e : DigitLimit)
  deriving DecidableEq, Repr

/-- White space between tokens. -/
def isSpace (c : CodePoint) : Bool :=
  c = .scalar ' ' || c = .scalar '\t' || c = .scalar '\n' || c = .scalar '\r'

/-- The text without the white space before it. -/
def skipSpace (t : Text) : Text := t.dropWhile isSpace

/-- The number of four hexadecimal digits. -/
def fourHex? (a b c d : CodePoint) : Option Nat := do
  return Text.numberOf 16 [← a.hexDigit?, ← b.hexDigit?, ← c.hexDigit?, ← d.hexDigit?]

/-- A surrogate pair as one code point. -/
def pairNumber (high low : Nat) : Nat := 0x10000 + (high - 0xD800) * 0x400 + (low - 0xDC00)

/-- What an escape with one letter stands for. -/
def simpleEscape? : CodePoint → Option CodePoint
  | .scalar '"' => some (.scalar '"')
  | .scalar '\\' => some (.scalar '\\')
  | .scalar '/' => some (.scalar '/')
  | .scalar 'b' => some (.scalar '\x08')
  | .scalar 'f' => some (.scalar '\x0c')
  | .scalar 'n' => some (.scalar '\n')
  | .scalar 'r' => some (.scalar '\r')
  | .scalar 't' => some (.scalar '\t')
  | _ => none

/-- A code point put in front of a string that was read. -/
def prepend (n : Nat) (r : Text × Text) : Text × Text := ((CodePoint.ofNat? n).toList ++ r.1, r.2)

/-- The string after its opening quote, and the text after its closing one. Two escapes that make up
a surrogate pair stand for one code point. -/
def readString? : Text → Option (Text × Text)
  | [] => none
  | .scalar '"' :: rest => some ([], rest)
  | .scalar '\\' :: .scalar 'u' :: a :: b :: c :: d :: rest =>
    match fourHex? a b c d with
    | none => none
    | some high =>
      match rest with
      | .scalar '\\' :: .scalar 'u' :: a' :: b' :: c' :: d' :: rest' =>
        match fourHex? a' b' c' d' with
        | some low =>
          if 0xD800 ≤ high ∧ high < 0xDC00 ∧ 0xDC00 ≤ low ∧ low < 0xE000 then
            (readString? rest').map (prepend (pairNumber high low))
          else
            (readString? (.scalar '\\' :: .scalar 'u' :: a' :: b' :: c' :: d' :: rest')).map
              (prepend high)
        | none => none
      | rest => (readString? rest).map (prepend high)
  | .scalar '\\' :: e :: rest =>
    match simpleEscape? e with
    | some c => (readString? rest).map fun r ↦ (c :: r.1, r.2)
    | none => none
  | c :: rest =>
    if c.toNat < 0x20 then none else (readString? rest).map fun r ↦ (c :: r.1, r.2)

/-- The words that stand for a value. -/
def words : List (Text × Scalar) :=
  [("null", .null), ("true", .bool true), ("false", .bool false), ("NaN", .float .nan),
    ("Infinity", .float (.infinite false)), ("-Infinity", .float (.infinite true))]

/-- The digits of an integer at the start of a text, without a superfluous zero in front, and the
rest. -/
def readWhole? (t : Text) : Option (List Nat × Text) :=
  match Text.spanDigits CodePoint.asciiDigit? t with
  | ([], _) => none
  | (0 :: _ :: _, _) => some ([0], t.drop 1)
  | (ds, rest) => some (ds, rest)

/-- A point with digits after it at the start of a text, and the rest. -/
def readFraction (t : Text) : List Nat × Text :=
  match Text.leadingFraction CodePoint.asciiDigit? t with
  | ([], _) => ([], t)
  | r => r

/-- An exponent at the start of a text, if there is a complete one, and the rest. -/
def readExponent (t : Text) : Option Int × Text :=
  let (e, rest) := Text.leadingExponent CodePoint.asciiDigit? t
  (if rest.length = t.length then none else some e, rest)

/-- A number at the start of a text, and the rest. -/
def readNumber (t : Text) : Except ReadError (Scalar × Text) :=
  let (negative, t₁) :=
    match t with
    | .scalar '-' :: t' => (true, t')
    | t => (false, t)
  match readWhole? t₁ with
  | none => .error .malformed
  | some (whole, t₂) =>
    let (fraction, t₃) := readFraction t₂
    let (exponent, rest) := readExponent t₃
    if fraction.isEmpty ∧ exponent = none then
      match DigitLimit.numberOf whole with
      | .ok n => .ok (.int (Text.signedInt negative n), rest)
      | .error e => .error (.digitLimit e)
    else .ok (.float (Numeral.toBinary64 ⟨negative, whole, fraction, exponent.getD 0⟩), rest)

/-- A scalar at the start of a text, and the rest. -/
def readScalar (t : Text) : Except ReadError (Scalar × Text) :=
  match t with
  | .scalar '"' :: t' =>
    match readString? t' with
    | some (s, rest) => .ok (.text s, rest)
    | none => .error .malformed
  | t =>
    match words.find? fun w ↦ w.1.isPrefixOf t with
    | some (word, s) => .ok (s, t.drop word.length)
    | none => readNumber t

mutual

/-- A value at the start of a text, and the rest. The first argument bounds the depth of calls. -/
def readValue : Nat → Text → Except ReadError (Datum × Text)
  | 0, _ => .error .malformed
  | fuel + 1, t =>
    match t with
    | .scalar '[' :: t' =>
      match skipSpace t' with
      | .scalar ']' :: rest => .ok (.list [], rest)
      | t'' => do
        let (items, rest) ← readItems fuel t''
        return (.list items, rest)
    | .scalar '\x7b' :: t' =>
      match skipSpace t' with
      | .scalar '\x7d' :: rest => .ok (.map [], rest)
      | t'' => do
        let (entries, rest) ← readEntries fuel t''
        return (.map (Assoc.ofList entries), rest)
    | t => do
      let (s, rest) ← readScalar t
      return (.scalar s, rest)

/-- Items with commas between them, up to the closing bracket. -/
def readItems : Nat → Text → Except ReadError (List Datum × Text)
  | 0, _ => .error .malformed
  | fuel + 1, t => do
    let (d, rest) ← readValue fuel t
    match skipSpace rest with
    | .scalar ']' :: rest' => return ([d], rest')
    | .scalar ',' :: rest' =>
      let (items, rest'') ← readItems fuel (skipSpace rest')
      return (d :: items, rest'')
    | _ => .error .malformed

/-- Entries with commas between them, up to the closing brace. -/
def readEntries : Nat → Text → Except ReadError (List (Scalar × Datum) × Text)
  | 0, _ => .error .malformed
  | fuel + 1, t =>
    match t with
    | .scalar '"' :: t' =>
      match readString? t' with
      | none => .error .malformed
      | some (key, rest) =>
        match skipSpace rest with
        | .scalar ':' :: rest' => do
          let (d, rest'') ← readValue fuel (skipSpace rest')
          match skipSpace rest'' with
          | .scalar '\x7d' :: after => return ([(.text key, d)], after)
          | .scalar ',' :: after =>
            let (entries, after') ← readEntries fuel (skipSpace after)
            return ((.text key, d) :: entries, after')
          | _ => .error .malformed
        | _ => .error .malformed
    | _ => .error .malformed

end

/-- The value that a JSON text denotes. -/
def read (t : Text) : Except ReadError Datum := do
  let (d, rest) ← readValue (2 * t.length + 2) (skipSpace t)
  if (skipSpace rest).isEmpty then return d else .error .malformed

end ScriptDefs.Json
