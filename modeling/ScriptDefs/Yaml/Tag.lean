import ScriptDefs.Text.Digit

/-!
# Types of nodes

Every node has a tag that names its type. A plain scalar without a tag has the type that its text looks
like: an integer, a number, a truth value, null, a date, or else a text.
-/

namespace ScriptDefs.Yaml

/-- The type of a node. -/
inductive Tag where
  | null
  | bool
  | int
  | float
  | timestamp
  | str
  | binary
  | seq
  | map
  | set
  | omap
  | pairs
  /-- A key whose value is merged into the mapping around it. -/
  | merge
  /-- A key whose value stands for the mapping around it where a scalar is asked for. -/
  | value
  | other (name : Text)
  deriving DecidableEq, Repr

namespace Tag

/-- What the names of the common types begin with. -/
def commonStart : Text := "tag:yaml.org,2002:"

/-- The names of the common types after what they begin with. -/
def commonNames : List (Text × Tag) :=
  [("null", null), ("bool", bool), ("int", int), ("float", float), ("timestamp", timestamp),
    ("str", str), ("binary", binary), ("seq", seq), ("map", map), ("set", set), ("omap", omap),
    ("pairs", pairs), ("merge", merge), ("value", value)]

/-- The type with a name. -/
def ofName (name : Text) : Tag :=
  (((commonStart.isPrefixOf? name).bind fun t ↦ commonNames.lookup t)).getD (other name)

end Tag

/-! ## Texts that look like other values -/

/-- The text without one line feed at its end. -/
def dropFinalBreak (t : Text) : Text :=
  if t.getLast? = some (.scalar '\n') then t.dropLast else t

/-- A digit of a base, or an underscore. -/
def isSpacedDigit (base : Nat) (c : CodePoint) : Bool :=
  c = .scalar '_' || (c.hexDigit?.any fun d ↦ d < base)

/-- A decimal digit. -/
def isDecimal (c : CodePoint) : Bool := c.asciiDigit?.isSome

/-- The text without a sign in front. -/
def withoutSign : Text → Text
  | .scalar '-' :: t => t
  | .scalar '+' :: t => t
  | t => t

/-- One or more digits of a base, with underscores among them. -/
def isSpacedRun (base : Nat) (t : Text) : Bool := !t.isEmpty && t.all (isSpacedDigit base)

/-- The text after places of base sixty, each with a colon in front. -/
def afterPlaces : Text → Text
  | .scalar ':' :: a :: b :: t =>
    if isDecimal a && a.toNat < 0x36 && isDecimal b then afterPlaces t
    else if isDecimal a then
      match b with
      | .scalar ':' => afterPlaces (b :: t)
      | _ => b :: t
    else .scalar ':' :: a :: b :: t
  | [.scalar ':', a] => if isDecimal a then [] else [.scalar ':', a]
  | t => t
termination_by t => t.length

/-- The text is an integer: binary, octal, hexadecimal, decimal or of base sixty. -/
def looksLikeInt (t : Text) : Bool :=
  match withoutSign t with
  | [.scalar '0'] => true
  | .scalar '0' :: .scalar 'b' :: t => isSpacedRun 2 t
  | .scalar '0' :: .scalar 'x' :: t => isSpacedRun 16 t
  | .scalar '0' :: t => isSpacedRun 8 t
  | c :: t => isDecimal c && (afterPlaces (t.dropWhile (isSpacedDigit 10))).isEmpty
  | [] => false

/-- The text is an exponent with its sign, or nothing. -/
def isExponentOrEmpty : Text → Bool
  | [] => true
  | .scalar e :: .scalar s :: t =>
    (e = 'e' || e = 'E') && (s = '+' || s = '-') && !t.isEmpty && t.all isDecimal
  | _ => false

/-- The text is a number with a point: decimal or of base sixty, infinite, or not-a-number. -/
def looksLikeFloat (t : Text) : Bool :=
  let infinite := ["inf", "Inf", "INF"].map Text.ofString
  let nan := ["nan", "NaN", "NAN"].map Text.ofString
  let afterDigits (t : Text) := t.dropWhile (isSpacedDigit 10)
  match t with
  | .scalar '.' :: rest =>
    nan.contains rest || infinite.contains rest ||
      (rest.head?.any isDecimal && isExponentOrEmpty (afterDigits rest))
  | _ =>
    match withoutSign t with
    | .scalar '.' :: rest => infinite.contains rest
    | c :: rest =>
      isDecimal c &&
        (match afterDigits rest with
        | .scalar '.' :: rest => isExponentOrEmpty (afterDigits rest)
        | rest =>
          match afterPlaces rest with
          | .scalar '.' :: after => (afterDigits after).isEmpty
          | _ => false)
    | [] => false

/-- Words for truth. -/
def trueWords : List Text :=
  List.map Text.ofString ["yes", "Yes", "YES", "true", "True", "TRUE", "on", "On", "ON"]

/-- Words for falsehood. -/
def falseWords : List Text :=
  List.map Text.ofString ["no", "No", "NO", "false", "False", "FALSE", "off", "Off", "OFF"]

/-- Words for null. -/
def nullWords : List Text := List.map Text.ofString ["~", "null", "Null", "NULL"]

end ScriptDefs.Yaml
