/-!
# Texts as sequences of code points

A text is a list of code points. A code point is a scalar value or one of the 2048 surrogates: an
escape or a numeric reference can name a lone surrogate, which no `Char` holds and which only
fails when the text has to be encoded.
-/

namespace ScriptDefs

/-- A code point: a scalar value, or the surrogate at an offset from U+D800. -/
inductive CodePoint where
  | scalar (c : Char)
  | surrogate (offset : Fin 2048)
  deriving DecidableEq, Repr

namespace CodePoint

instance : Inhabited CodePoint := ⟨.scalar 'a'⟩

instance : Coe Char CodePoint := ⟨.scalar⟩

/-- The number of a code point, below 0x110000. -/
def toNat : CodePoint → Nat
  | .scalar c => c.toNat
  | .surrogate k => 0xD800 + k.val

/-- The scalar value that a code point is, if it is not a surrogate. -/
def toChar? : CodePoint → Option Char
  | .scalar c => some c
  | .surrogate _ => none

/-- The code point with a number, if there is one. -/
def ofNat? (n : Nat) : Option CodePoint :=
  if h : 0xD800 ≤ n ∧ n < 0xE000 then some (.surrogate ⟨n - 0xD800, by omega⟩)
  else if n < 0x110000 then some (.scalar (Char.ofNat n))
  else none

end CodePoint

/-- A sequence of code points. -/
abbrev Text := List CodePoint

namespace Text

/-- The text of a string, which holds no surrogate. -/
def ofString (s : String) : Text := s.toList.map CodePoint.scalar

instance : Coe String Text := ⟨ofString⟩

/-- The string with these code points, unless one of them is a surrogate. -/
def toString? (t : Text) : Option String :=
  (t.mapM CodePoint.toChar?).map String.ofList

/-- The text holds scalar values only, so that it can be encoded. -/
def isEncodable (t : Text) : Bool := t.all fun c ↦ c.toChar?.isSome

/-- Order by code point, a proper beginning first. -/
def le : Text → Text → Bool
  | [], _ => true
  | _ :: _, [] => false
  | a :: s, b :: t => a.toNat < b.toNat || (a.toNat == b.toNat && le s t)

/-- Texts joined with nothing between them. -/
def concat (parts : List Text) : Text := parts.flatten

/-- Texts joined with a separator between neighbours. -/
def joinWith (separator : Text) (parts : List Text) : Text := parts.intersperse separator |>.flatten

@[simp] theorem joinWith_singleton (separator t : Text) : joinWith separator [t] = t := by
  simp [joinWith]

theorem joinWith_cons_cons (separator t u : Text) (ts : List Text) :
    joinWith separator (t :: u :: ts) = t ++ (separator ++ joinWith separator (u :: ts)) := rfl

/-- The parts of a text between the occurrences of a code point. -/
def splitOn (separator : CodePoint) : Text → List Text
  | [] => [[]]
  | c :: t =>
    if c = separator then [] :: splitOn separator t
    else
      match splitOn separator t with
      | part :: rest => (c :: part) :: rest
      | [] => [[c]]

/-- The natural number in decimal digits. -/
def ofNat (n : Nat) : Text := ofString (toString n)

/-- The integer in decimal digits, with a minus sign if it is negative. -/
def ofInt : Int → Text
  | .ofNat n => ofNat n
  | .negSucc n => .scalar '-' :: ofNat (n + 1)

/-- One text ends with another. -/
def endsWith (t ending : Text) : Bool := ending.isSuffixOf t

/-- The text without a beginning that it may have. -/
def dropStart (t start : Text) : Text := (start.isPrefixOf? t).getD t

/-- Replacement in progress: `skip` code points of the last match are still to be passed over. -/
def replaceFrom (old new : Text) : Nat → Text → Text
  | _, [] => []
  | skip + 1, _ :: t => replaceFrom old new skip t
  | 0, c :: t =>
    if old.isPrefixOf (c :: t) then new ++ replaceFrom old new (old.length - 1) t
    else c :: replaceFrom old new 0 t

/-- Every occurrence of a non-empty text replaced, from the left and without overlap. -/
def replaceAll (old new t : Text) : Text := replaceFrom old new 0 t

/-- How often a non-empty text occurs in another, counted from the left and without overlap. -/
def countFrom (part : Text) : Nat → Text → Nat
  | _, [] => 0
  | skip + 1, _ :: t => countFrom part skip t
  | 0, c :: t =>
    if part.isPrefixOf (c :: t) then countFrom part (part.length - 1) t + 1
    else countFrom part 0 t

/-- Occurrences of a non-empty text that do not overlap. -/
def occurrences (part t : Text) : Nat := countFrom part 0 t

/-- A number lies in one of the closed ranges. -/
def inRanges (ranges : List (Nat × Nat)) (n : Nat) : Bool :=
  ranges.any fun r ↦ r.1 ≤ n && n ≤ r.2

end Text

end ScriptDefs
