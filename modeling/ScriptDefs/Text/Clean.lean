import ScriptDefs.Text.Blank
import ScriptDefs.Text.Entity

/-!
# Cleaning of published texts

Keyword files wrap and indent their texts. Cleaning drops raw line breaks, keeps the escaped ones,
collapses runs of spaces and decodes character references.
-/

namespace ScriptDefs.Text

/-- Two spaces stand next to each other somewhere. -/
def hasDoubleSpace : Text → Bool
  | .scalar ' ' :: .scalar ' ' :: _ => true
  | _ :: t => hasDoubleSpace t
  | [] => false

/-- One pass from the left: two adjacent spaces become one, without overlap. -/
def halveSpaces : Text → Text
  | .scalar ' ' :: .scalar ' ' :: t => .scalar ' ' :: halveSpaces t
  | c :: t => c :: halveSpaces t
  | [] => []

theorem length_halveSpaces_le (t : Text) : (halveSpaces t).length ≤ t.length := by
  fun_induction halveSpaces t <;> grind

theorem length_halveSpaces_lt {t : Text} (h : hasDoubleSpace t = true) :
    (halveSpaces t).length < t.length := by
  fun_induction hasDoubleSpace t with
  | case1 t =>
    have := length_halveSpaces_le t
    simp only [halveSpaces, List.length_cons]
    omega
  | case2 c t hne ih =>
    have := ih h
    rw [halveSpaces]
    · simpa using this
    · exact hne
  | case3 => simp at h

/-- Passes repeated until no two spaces are adjacent. -/
def collapseSpaces (t : Text) : Text :=
  if _h : hasDoubleSpace t = true then collapseSpaces (halveSpaces t) else t
termination_by t.length
decreasing_by exact length_halveSpaces_lt _h

/-- Stands for an escaped line break while raw line breaks are dropped. -/
def lineBreakMark : Text := "%%%%%%"

/-- A published text as it is meant to be read, before references are decoded. -/
def unwrap (t : Text) : Text :=
  let marked := replaceAll "\\n" lineBreakMark t
  let joined := marked.filter (· ≠ .scalar '\n')
  replaceAll lineBreakMark "\n" (collapseSpaces joined)

/-- A published text as it is meant to be read. -/
def clean (t : Text) : Except DigitLimit Text := unescape (unwrap t)

/-- What separates the paragraphs of an indented description. -/
def paragraphBreak : Text := ofString "\n\n" ++ List.replicate 15 (CodePoint.scalar ' ')

/-- A description without surrounding white space, with real line breaks, and without the
indentation of its paragraphs. -/
def cleanDescription (t : Text) : Text :=
  replaceAll paragraphBreak "\n" (replaceAll "\\n" "\n" t.trim)

end ScriptDefs.Text
