import ScriptDefs.Text.Basic

/-!
# Paths of files

A path is its root, which is empty for a path from the working directory, and the names on the way. Empty
names and single points do not count.
-/

namespace ScriptDefs

/-- A path in its normal form. -/
structure Path where
  root : Text := []
  names : List Text := []
  deriving DecidableEq, Repr

namespace Path

/-- What separates names. -/
def separator : CodePoint := .scalar '/'

/-- The root at the start of a text. Two slashes, but no more, are a root of their own. -/
def rootOf (t : Text) : Text :=
  let slashes := t.takeWhile (· = separator)
  if slashes.length = 2 then slashes else slashes.take 1

/-- The path that a text names. -/
def ofText (t : Text) : Path where
  root := rootOf t
  names := (t.splitOn separator).filter fun n ↦ !n.isEmpty && n ≠ [.scalar '.']

/-- The path as text; the working directory is a single point. -/
def toText (p : Path) : Text :=
  if p.root.isEmpty && p.names.isEmpty then [.scalar '.']
  else p.root ++ Text.joinWith [separator] p.names

/-- The last name, empty if there is none. -/
def name (p : Path) : Text := p.names.getLast?.getD []

/-- What follows the last point of a name, with the point. A point at the start or at the end of the name
does not count. -/
def suffix (p : Path) : Text :=
  let ending := (p.name.reverse.takeWhile (· ≠ .scalar '.')).reverse
  let n := p.name.length - ending.length
  if ending.isEmpty ∨ n ≤ 1 then [] else .scalar '.' :: ending

/-- The directory that holds what the path names. -/
def parent (p : Path) : Path := { p with names := p.names.dropLast }

end Path

end ScriptDefs
