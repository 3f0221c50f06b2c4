import ScriptDefs.Text.Basic
import ScriptDefs.Text.CaseTable

/-!
# Letter case

Full upper- and lower-case forms: one code point may become several, and a capital sigma at the end
of a word becomes the final sigma.
-/

namespace ScriptDefs

namespace CodePoint

/-- The class of letters that have case. -/
def isCased (c : CodePoint) : Bool := Text.inRanges Text.casedRanges c.toNat

/-- The code point is passed over when the neighbours of a sigma are looked for. -/
def isCaseIgnorable (c : CodePoint) : Bool := Text.inRanges Text.caseIgnorableRanges c.toNat

/-- The image of a code point under a case mapping given as data. -/
def mapCase (expansions : List (Nat × List Nat)) (runs : List Text.CaseRun) (c : CodePoint) : Text :=
  match expansions.lookup c.toNat with
  | some ns => ns.filterMap ofNat?
  | none => [((Text.CaseRun.lookup? runs c.toNat).bind ofNat?).getD c]

/-- The upper-case form of a code point. -/
def toUpper : CodePoint → Text := mapCase Text.upperExpansions Text.upperRuns

/-- The lower-case form of a code point that stands alone. -/
def toLower : CodePoint → Text := mapCase Text.lowerExpansions Text.lowerRuns

end CodePoint

namespace Text

/-- The first code point that is not passed over exists and has case. -/
def meetsCased (t : Text) : Bool :=
  match t.dropWhile CodePoint.isCaseIgnorable with
  | [] => false
  | c :: _ => c.isCased

/-- Lower-casing with the code points before, in reverse: a sigma after a cased letter and before
none is final. -/
def lowerFrom (before : Text) : Text → Text
  | [] => []
  | c :: t =>
    (if c = .scalar 'Σ' then
      if meetsCased before && !meetsCased t then [.scalar 'ς'] else [.scalar 'σ']
    else c.toLower) ++ lowerFrom (c :: before) t

/-- The text in lower case. -/
def lower (t : Text) : Text := lowerFrom [] t

/-- The text with its first code point in upper case. -/
def capitalize : Text → Text
  | [] => []
  | c :: t => c.toUpper ++ t

end Text

end ScriptDefs
