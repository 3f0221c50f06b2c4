import ScriptDefs.Text.Case

/-!
# Names of snippet parameters

An argument name is split at its capitals, put in lower case and shortened.
-/

namespace ScriptDefs

namespace CodePoint

/-- An ASCII capital. -/
def isCapital (c : CodePoint) : Bool := 0x41 ≤ c.toNat && c.toNat ≤ 0x5A

/-- An ASCII letter that is no capital. -/
def isSmallLetter (c : CodePoint) : Bool := 0x61 ≤ c.toNat && c.toNat ≤ 0x7A

end CodePoint

namespace Text

/-- An underscore put before every capital that a small letter follows. -/
def splitWords : Text → Text
  | c :: d :: t =>
    if c.isCapital && d.isSmallLetter then .scalar '_' :: c :: splitWords (d :: t)
    else c :: splitWords (d :: t)
  | t => t

/-- The name in lower case with underscores between its words; none is put at its start. -/
def snakeCase : Text → Text
  | [] => []
  | c :: t => lower (c :: splitWords t)

/-- Beginnings that are left out of parameter names. -/
def droppedStarts : List Text := ["number_of_", "http_", "start_", "senders_"]

/-- The last word alone for an identifier, else the name without a beginning of little worth. -/
def simplifyName (t : Text) : Text :=
  if t.endsWith "id" then "id"
  else
    match droppedStarts.find? fun s ↦ s.isPrefixOf t with
    | some start => t.drop start.length
    | none => t

/-- The parameter name for an argument name. -/
def parameterName (t : Text) : Text := simplifyName (snakeCase t)

end Text

end ScriptDefs
