import ScriptDefs.Data.Assoc
import ScriptDefs.Text.Basic

/-!
# Diagnostics

Remarks on the quality of the input that do not stop a run, and their one-line summary.
-/

namespace ScriptDefs

/-- How serious a diagnostic is. -/
inductive Severity where
  | error
  | warning
  deriving DecidableEq, Repr

/-- A remark on one entry of the input. -/
structure Diagnostic where
  code : Text
  message : Text
  subject : Option Text
  severity : Severity
  hint : Option Text
  category : Option Text
  deriving DecidableEq, Repr

/-- What the diagnostics of one code have in common. -/
structure DiagnosticRule where
  code : Text
  message : Text
  hint : Option Text := none
  severity : Severity := .error
  category : Option Text := none
  deriving DecidableEq, Repr

namespace DiagnosticRule

/-- The diagnostic for a subject, with a detail after the common message. -/
def emit (rule : DiagnosticRule) (subject detail : Option Text) : Diagnostic where
  code := rule.code
  message :=
    match detail with
    | none => rule.message
    | some d => rule.message ++ .scalar ' ' :: d
  subject := subject
  severity := rule.severity
  hint := rule.hint
  category := rule.category

end DiagnosticRule

namespace Diagnostic

/-- How many diagnostics each code has, in the order of the codes. -/
def counts (diagnostics : List Diagnostic) : Assoc Text Nat :=
  let total : Assoc Text Nat := diagnostics.foldl
    (fun m d ↦ m.put d.code ((m.lookup d.code).getD 0 + 1)) []
  total.sorted

/-- One line with the number of diagnostics in all and of each code. -/
def summary (diagnostics : List Diagnostic) : Text :=
  if diagnostics.isEmpty then "no diagnostics"
  else
    let noun : Text := if diagnostics.length = 1 then "diagnostic" else "diagnostics"
    let parts := (counts diagnostics).map fun c ↦
      c.1 ++ (" x" : Text) ++ Text.ofNat c.2
    Text.ofNat diagnostics.length ++ .scalar ' ' :: noun ++ (": " : Text) ++
      Text.joinWith ", " parts

end Diagnostic

end ScriptDefs
