import ScriptDefs.Path
import ScriptDefs.Render.Kind
import ScriptDefs.Text.Digit

/-!
# Command line arguments

What the arguments of a call ask for. Long options can be shortened as long as they stay unambiguous, and
short options without a value can be joined. The input and the kind of output are read together, from
where the input stands; what follows an option after that is too much.
-/

namespace ScriptDefs.CommandLine

/-- What a call asks for. -/
structure Arguments where
  input : Path
  kind : Text
  loose : Bool := false
  catalogueOverrides : Option Path := none
  documentOverrides : Option Path := none
  out : Option Path := none
  verbose : Bool := false
  deriving DecidableEq, Repr

/-- A call that asks for nothing to be generated. -/
inductive Stop where
  /-- The arguments make no sense. -/
  | usage
  | help
  deriving DecidableEq, Repr

/-- The status that the program ends with. -/
def Stop.status : Stop → Nat
  | .usage => 2
  | .help => 0

/-- The options. -/
inductive Switch where
  | help
  | loose
  | catalogueOverrides
  | documentOverrides
  | out
  | verbose
  deriving DecidableEq, Repr

namespace Switch

/-- The option has a value. -/
def hasValue : Switch → Bool
  | catalogueOverrides | documentOverrides | out => true
  | help | loose | verbose => false

/-- The spellings of the options. -/
def spellings : List (Text × Switch) :=
  [("-h", help), ("--help", help), ("--loose", loose), ("--lsl-overrides", catalogueOverrides),
    ("--slua-overrides", documentOverrides), ("--out", out), ("-v", verbose),
    ("--verbose", verbose)]

/-- The option with a spelling. -/
def ofSpelling? (t : Text) : Option Switch := spellings.lookup t

/-- The options with spellings that begin with a text. -/
def beginningWith (t : Text) : List Switch :=
  (spellings.filter fun s ↦ t.isPrefixOf s.1).map (·.2)

end Switch

/-- An argument as it is understood on its own. -/
inductive Piece where
  /-- Two hyphens: what follows holds no options. -/
  | mark
  | plain (t : Text)
  /-- An option with the value that is joined to it, if there is one. -/
  | option (o : Switch) (isLong : Bool) (joined : Option Text)
  | unknown
  deriving DecidableEq, Repr

/-- A text up to its first equals sign, and what follows that. -/
def splitAtEquals (t : Text) : Text × Option Text :=
  let start := t.takeWhile (· ≠ .scalar '=')
  (start, if start.length < t.length then some (t.drop (start.length + 1)) else none)

/-- One or more decimal digits. -/
def areDigits (t : Text) : Bool := !t.isEmpty && t.all CodePoint.isDigit

/-- A negative number, which is no option. -/
def isNegativeNumber (t : Text) : Bool :=
  match t with
  | .scalar '-' :: rest =>
    let rest := if rest.getLast? = some (.scalar '\n') then rest.dropLast else rest
    areDigits rest ||
      (match rest.dropWhile CodePoint.isDigit with
      | .scalar '.' :: fraction => areDigits fraction
      | _ => false)
  | _ => false

/-- The ways to understand a text as an option that is shortened or joined to something. -/
def readings (t : Text) : List Piece :=
  match t with
  | .scalar '-' :: .scalar '-' :: _ =>
    let (start, joined) := splitAtEquals t
    (Switch.beginningWith start).map fun o ↦ .option o true joined
  | _ =>
    match Switch.ofSpelling? (t.take 2) with
    | some o => [.option o false (some (t.drop 2))]
    | none => []

/-- An argument on its own. -/
def pieceOf (t : Text) : Except Stop Piece :=
  match t with
  | .scalar '-' :: rest =>
    let isLong := rest.head? = some (.scalar '-')
    let (start, joined) := splitAtEquals t
    match Switch.ofSpelling? t, Switch.ofSpelling? start with
    | some o, _ => .ok (.option o isLong none)
    | none, some o => .ok (.option o isLong joined)
    | none, none =>
      if rest.isEmpty then .ok (.plain t)
      else
        match readings t with
        | [piece] => .ok piece
        | [] =>
          if isNegativeNumber t || t.contains (.scalar ' ') then .ok (.plain t) else .ok .unknown
        | _ => .error .usage
  | _ => .ok (.plain t)

/-- All arguments on their own. -/
def pieces : List Text → Except Stop (List Piece)
  | [] => .ok []
  | t :: rest =>
    if t = Text.ofString "--" then .ok (.mark :: rest.map .plain)
    else do
      let piece ← pieceOf t
      return piece :: (← pieces rest)

/-- What has been understood so far. The input is missing until it has been read, and with it the kind of
output. -/
structure Collected where
  positionals : Option (Path × Text) := none
  loose : Bool := false
  catalogueOverrides : Option Path := none
  documentOverrides : Option Path := none
  out : Option Path := none
  verbose : Bool := false
  /-- There is an argument that nothing asks for. -/
  tooMuch : Bool := false
  deriving Repr

namespace Collected

/-- An option without a value. -/
def setFlag (o : Switch) (c : Collected) : Except Stop Collected :=
  match o with
  | .help => .error .help
  | .loose => .ok { c with loose := true }
  | .verbose => .ok { c with verbose := true }
  | .catalogueOverrides | .documentOverrides | .out => .error .usage

/-- An option with its value. -/
def setValue (o : Switch) (t : Text) (c : Collected) : Collected :=
  match o with
  | .catalogueOverrides => { c with catalogueOverrides := some (Path.ofText t) }
  | .documentOverrides => { c with documentOverrides := some (Path.ofText t) }
  | .out => { c with out := some (Path.ofText t) }
  | .help | .loose | .verbose => c

end Collected

/-- The options in what is joined to an option without a value. -/
def joinedOptions (isLong : Bool) : Option Text → Except Stop (List Switch)
  | none => .ok []
  | some [] => .error .usage
  | some (c :: rest) =>
    if isLong then .error .usage
    else
      match Switch.ofSpelling? [.scalar '-', c] with
      | none => .error .usage
      | some o =>
        if o.hasValue then .error .usage
        else if rest.isEmpty then .ok [o]
        else do return o :: (← joinedOptions false (some rest))

/-- The text of the first argument if it is no option, after a mark of the end of options. -/
def firstPlain? : List Piece → Option (Text × List Piece)
  | .mark :: .plain t :: rest => some (t, rest)
  | .plain t :: rest => some (t, rest)
  | _ => none

/-- The pieces without a mark of the end of options in front. -/
def withoutMark : List Piece → List Piece
  | .mark :: rest => rest
  | ps => ps

/-- The kind of output that is rendered if none is asked for. -/
def defaultKind : Text := OutputKind.declarations.name

/-- The kind of output after the input. Of two hyphens after a mark only the first are a mark. -/
def kindOf (marked : Bool) (ps : List Piece) : Text × List Piece :=
  match ps with
  | .plain t :: rest =>
    if marked && t = Text.ofString "--" then (defaultKind, rest) else (t, withoutMark rest)
  | ps => (defaultKind, ps)

/-- The input and the kind of output at the start of pieces, if they have not been read before. -/
def readPositionals (c : Collected) (ps : List Piece) : Collected × List Piece :=
  match c.positionals, firstPlain? ps with
  | none, some (input, afterInput) =>
    let afterMark := withoutMark afterInput
    let marked := ps.head? = some .mark || afterInput.head? = some .mark
    let (kind, rest) := kindOf marked afterMark
    ({ c with positionals := some (Path.ofText input, kind) }, rest)
  | _, _ => (c, ps)

/-- An option is among the pieces. -/
def hasOption (ps : List Piece) : Bool :=
  ps.any fun
    | .option _ _ _ | .unknown => true
    | _ => false

/-- An option at the start of pieces, with what belongs to it. -/
def readOption (o : Switch) (isLong : Bool) (joined : Option Text) (c : Collected)
    (ps : List Piece) : Except Stop (Collected × List Piece) :=
  if o.hasValue then
    match joined, ps with
    | some t, _ => .ok (c.setValue o t, ps)
    | none, .plain t :: rest => .ok (c.setValue o t, rest)
    | none, _ => .error .usage
  else do
    let options ← joinedOptions isLong joined
    return (← (o :: options).foldlM (fun c o ↦ c.setFlag o) c, ps)

/-- The pieces in turn, in at most `fuel` steps. -/
def collect : Nat → Collected → List Piece → Except Stop Collected
  | 0, _, _ => .error .usage
  | fuel + 1, c, ps =>
    match ps with
    | .option o isLong joined :: rest => do
      let (c, rest) ← readOption o isLong joined c rest
      collect fuel c rest
    | .unknown :: rest => collect fuel { c with tooMuch := true } rest
    | _ =>
      let (c, rest) := readPositionals c ps
      if rest.isEmpty then .ok c
      else if rest.length < ps.length then collect fuel c rest
      else if hasOption rest then collect fuel { c with tooMuch := true } rest.tail
      else .ok { c with tooMuch := true }

/-- What the arguments of a call ask for. -/
def parse (arguments : List Text) : Except Stop Arguments := do
  let ps ← pieces arguments
  let c ← collect (ps.length + 1) {} ps
  match c.positionals with
  | some (input, kind) =>
    if c.tooMuch then throw .usage
    return {
      input
      kind
      loose := c.loose
      catalogueOverrides := c.catalogueOverrides
      documentOverrides := c.documentOverrides
      out := c.out
      verbose := c.verbose }
  | none => throw .usage

end ScriptDefs.CommandLine
