import ScriptDefs.Text.Basic

/-!
# Log entries

What a run reports on the way, each entry with its level and the part of the program that reports it.
-/

namespace ScriptDefs

/-- How important an entry is. -/
inductive LogLevel where
  | debug
  | info
  | warning
  deriving DecidableEq, Repr

/-- One entry of the log. -/
structure LogEntry where
  level : LogLevel
  /-- The part of the program that reports. -/
  origin : Text
  message : Text
  deriving DecidableEq, Repr

/-- The name of a level in the log. -/
def LogLevel.name : LogLevel → Text
  | .debug => "DEBUG"
  | .info => "INFO"
  | .warning => "WARNING"

/-- The level is kept when only important entries are asked for. -/
def LogLevel.isImportant (l : LogLevel) : Bool := l = .warning

/-- The line of an entry. -/
def LogEntry.line (e : LogEntry) : Text :=
  e.level.name ++ .scalar ' ' :: e.origin ++ Text.ofString ": " ++ e.message

end ScriptDefs
