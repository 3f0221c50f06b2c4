import ScriptDefs.Data.Display

/-!
# Writing JSON

Plain data as JSON text, on one line or indented, in ASCII or with all printable texts as they are.
Infinite numbers and not-a-number have words of their own. Dates, bytes, sets and collections that are a
part of themselves have no JSON form.
-/

namespace ScriptDefs.Json

/-- Why a value cannot be written. -/
inductive WriteError where
  | digitLimit (e : DigitLimit)
  | noJsonForm (kind : DatumKind)
  /-- A collection is a part of itself. -/
  | circular
  deriving DecidableEq, Repr

/-- A way to lay out JSON text. -/
structure Style where
  /-- Write code points outside ASCII as escapes. -/
  ascii : Bool
  /-- Spaces per level of nesting; without it all stands on one line. -/
  indent : Option Nat
  deriving DecidableEq, Repr

/-- One line in ASCII. -/
def asciiLine : Style := ⟨true, none⟩

/-- One line. -/
def line : Style := ⟨false, none⟩

/-- Two more spaces on each level. -/
def indented : Style := ⟨false, some 2⟩

/-- How infinite numbers and not-a-number are written. -/
def numberNames : Binary64.NonFiniteNames := ⟨"Infinity", "NaN"⟩

/-- An escape with four hexadecimal digits. -/
def unicodeEscape (n : Nat) : Text := .scalar '\\' :: .scalar 'u' :: Text.hexDigits 4 n

/-- A code point as escapes: two of them above U+FFFF, one for each surrogate of the pair. -/
def asciiEscape (n : Nat) : Text :=
  if n < 0x10000 then unicodeEscape n
  else
    unicodeEscape (0xD800 + (n - 0x10000) / 0x400) ++ unicodeEscape (0xDC00 + (n - 0x10000) % 0x400)

/-- A code point inside a JSON string. -/
def escaped (ascii : Bool) (c : CodePoint) : Text :=
  if c = .scalar '"' then "\\\""
  else if c = .scalar '\\' then "\\\\"
  else if c = .scalar '\n' then "\\n"
  else if c = .scalar '\r' then "\\r"
  else if c = .scalar '\t' then "\\t"
  else if c.toNat = 0x08 then "\\b"
  else if c.toNat = 0x0C then "\\f"
  else if c.toNat < 0x20 then unicodeEscape c.toNat
  else if ascii && 0x7F ≤ c.toNat then asciiEscape c.toNat
  else [c]

/-- A text as a JSON string. -/
def stringText (ascii : Bool) (t : Text) : Text :=
  .scalar '"' :: t.flatMap (escaped ascii) ++ [.scalar '"']

/-- An integer, unless it has too many digits. -/
def integerText (n : Int) : Except WriteError Text :=
  match DigitLimit.integerText n with
  | .ok t => .ok t
  | .error e => .error (.digitLimit e)

/-- A scalar as a JSON value. -/
def scalarText (ascii : Bool) : Scalar → Except WriteError Text
  | .null => .ok "null"
  | .bool b => .ok (if b then "true" else "false")
  | .int n => integerText n
  | .float x => .ok (x.toText numberNames)
  | .text t => .ok (stringText ascii t)
  | s => .error (.noJsonForm s.kind)

/-- A key as a JSON string: keys that are no texts are written as values first. -/
def keyText (ascii : Bool) : Scalar → Except WriteError Text
  | .text t => .ok (stringText ascii t)
  | s => do return stringText ascii (← scalarText ascii s)

/-- A line break and the indentation of a level. -/
def lineBreak (width depth : Nat) : Text :=
  .scalar '\n' :: List.replicate (width * depth) (.scalar ' ')

/-- Parts between brackets at a level of nesting; with no parts the brackets stand together. -/
def enclose (style : Style) (depth : Nat) (left right : Char) (parts : List Text) : Text :=
  if parts.isEmpty then [.scalar left, .scalar right]
  else
    match style.indent with
    | none => .scalar left :: Text.joinWith ", " parts ++ [.scalar right]
    | some width =>
      .scalar left :: lineBreak width (depth + 1) ++
        Text.joinWith (.scalar ',' :: lineBreak width (depth + 1)) parts ++
        lineBreak width depth ++ [.scalar right]

mutual

/-- A value at a level of nesting. -/
def valueText (style : Style) (depth : Nat) : Datum → Except WriteError Text
  | .scalar s => scalarText style.ascii s
  | .list items => do return enclose style depth '[' ']' (← itemTexts style (depth + 1) items)
  | .pair first second => do
    let text ← valueText style (depth + 1) first
    return enclose style depth '[' ']' [text, ← valueText style (depth + 1) second]
  | .set _ => .error (.noJsonForm .set)
  | .knot _ body => valueText style depth body
  | .again _ _ => .error .circular
  | .map entries => do
    return enclose style depth '\x7b' '\x7d' (← entryTexts style (depth + 1) entries)

/-- The items of a list at a level of nesting. -/
def itemTexts (style : Style) (depth : Nat) : List Datum → Except WriteError (List Text)
  | [] => .ok []
  | d :: rest => do
    let text ← valueText style depth d
    return text :: (← itemTexts style depth rest)

/-- The entries of a map at a level of nesting. -/
def entryTexts (style : Style) (depth : Nat) :
    List (Scalar × Datum) → Except WriteError (List Text)
  | [] => .ok []
  | (k, v) :: rest => do
    let key ← keyText style.ascii k
    let value ← valueText style depth v
    return (key ++ Text.ofString ": " ++ value) :: (← entryTexts style depth rest)

end

/-- A value as JSON text. -/
def print (style : Style) (d : Datum) : Except WriteError Text := valueText style 0 d

end ScriptDefs.Json
