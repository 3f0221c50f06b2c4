import ScriptDefs.Number.Notation

/-!
# Character references

References `&amp;`, `&#65;`, `&#x41;` and their kin, decoded once from left to right: what a
reference stands for is never read again as the start of another one.
-/

namespace ScriptDefs

namespace Text

/-- The references that have a name, without the ampersand. -/
def namedReferences : List (Text × Char) :=
  [("amp;", '&'), ("lt;", '<'), ("gt;", '>'), ("quot;", '"'), ("#39;", '\'')]

/-- The digits of a numeric reference, its base, and the text after its semicolon. -/
def numericReference? (t : Text) : Option (Nat × List Nat × Text) :=
  match t with
  | .scalar '#' :: .scalar x :: t' =>
    let (base, digits, rest) :=
      if x = 'x' ∨ x = 'X' then (16, spanDigits CodePoint.hexDigit? t')
      else (10, spanDigits CodePoint.asciiDigit? (.scalar x :: t'))
    match digits, rest with
    | _ :: _, .scalar ';' :: after => some (base, digits, after)
    | _, _ => none
  | _ => none

/-- A reference at the start of the text after an ampersand: what it stands for and how many code
points it takes up. A number above U+10FFFF stands for its own spelling. -/
def reference? (t : Text) : Except DigitLimit (Option (Text × Nat)) :=
  match namedReferences.find? fun r ↦ r.1.isPrefixOf t with
  | some (name, c) => .ok (some ([.scalar c], name.length))
  | none =>
    match numericReference? t with
    | none => .ok none
    | some (base, digits, after) => do
      let n ← if base = 16 then .ok (numberOf 16 digits) else DigitLimit.numberOf digits
      let size := t.length - after.length
      return some (match CodePoint.ofNat? n with
        | some c => ([c], size)
        | none => (.scalar '&' :: t.take size, size))

/-- Decoding in progress: `skip` code points of the last reference are still to be passed over. -/
def unescapeFrom : Nat → Text → Except DigitLimit Text
  | _, [] => .ok []
  | skip + 1, _ :: t => unescapeFrom skip t
  | 0, c :: t =>
    if c = .scalar '&' then do
      match ← reference? t with
      | some (decoded, size) => return decoded ++ (← unescapeFrom size t)
      | none => return c :: (← unescapeFrom 0 t)
    else do return c :: (← unescapeFrom 0 t)

/-- The text with every reference decoded. -/
def unescape (t : Text) : Except DigitLimit Text := unescapeFrom 0 t

end Text

end ScriptDefs
