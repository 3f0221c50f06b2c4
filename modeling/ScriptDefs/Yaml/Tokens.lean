import ScriptDefs.Yaml.BlockScalar
import ScriptDefs.Yaml.PlainScalar
import ScriptDefs.Yaml.Property

/-!
# The tokens of a document

Tokens from the first to the last. Indentation opens and closes block collections. A token that may turn
out to be a key is remembered, because only the value indicator after it tells: the indicators of the key
and of its mapping are then put in front of it. A key stands on one line and is not too long.
-/

namespace ScriptDefs.Yaml

/-- A token that may turn out to be a key. -/
structure KeyPlace where
  /-- The number of tokens before it. -/
  token : Nat
  /-- The line cannot be anything but a key with its value. -/
  required : Bool
  index : Nat
  line : Nat
  column : Nat
  deriving Repr

/-- How far the tokens of a document have been read. -/
structure TokenReading where
  cursor : Cursor
  /-- The tokens so far, the last first. -/
  tokens : List Token := []
  count : Nat := 0
  /-- One more than the columns of the open block collections, the innermost first. -/
  columns : List Nat := []
  /-- A key may begin here. -/
  keyAllowed : Bool := true
  /-- What may turn out to be a key, in the open flow collections, the innermost first, and in the block
  around them. -/
  keys : List (Option KeyPlace) := [none]
  deriving Repr

namespace TokenReading

/-- A flow collection is open. -/
def inFlow (s : TokenReading) : Bool := 1 < s.keys.length

/-- One more than the column of the innermost block collection; zero outside all. -/
def indent (s : TokenReading) : Nat := s.columns.head?.getD 0

/-- One more token. -/
def push (t : Token) (s : TokenReading) : TokenReading :=
  { s with tokens := t :: s.tokens, count := s.count + 1 }

/-- A token put in front of others that are counted from the start. -/
def insertAt (n : Nat) (t : Token) (s : TokenReading) : TokenReading :=
  let after := s.count - n
  { s with tokens := s.tokens.take after ++ t :: s.tokens.drop after, count := s.count + 1 }

/-- Block collections of further columns end. -/
def unwind (indent : Nat) (s : TokenReading) : TokenReading :=
  if s.inFlow then s
  else
    let ended := s.columns.takeWhile (indent < ·)
    ended.foldl (fun s _ ↦ s.push .blockEnd) { s with columns := s.columns.drop ended.length }

/-- A possible key that has become impossible; a required one must not. -/
def dropKey (k : KeyPlace) : Except Fault (Option KeyPlace) :=
  if k.required then .error .malformed else .ok none

/-- Possible keys on earlier lines, or too long, are none. -/
def checkKeys (s : TokenReading) : Except Fault TokenReading := do
  let keys ← s.keys.mapM fun
    | none => .ok none
    | some k =>
      if k.line ≠ s.cursor.line ∨ 1024 < s.cursor.index - k.index then dropKey k else .ok (some k)
  return { s with keys }

/-- What may have been a key in the innermost collection is none. -/
def forgetKey (s : TokenReading) : Except Fault TokenReading :=
  match s.keys with
  | some k :: rest => do return { s with keys := (← dropKey k) :: rest }
  | _ => .ok s

/-- The next token may turn out to be a key, if a key is allowed here. -/
def rememberKey (s : TokenReading) : Except Fault TokenReading :=
  if s.keyAllowed then do
    let s ← s.forgetKey
    let c := s.cursor
    let required := !s.inFlow && s.indent = c.column + 1
    let place : KeyPlace := ⟨s.count, required, c.index, c.line, c.column⟩
    return { s with keys := some place :: s.keys.tail }
  else .ok s

/-- A block collection begins at a column, unless it is open already. -/
def openBlock (n column : Nat) (t : Token) (s : TokenReading) : TokenReading :=
  if s.indent ≤ column then { s.insertAt n t with columns := (column + 1) :: s.columns } else s

/-- A single character as a token. -/
def indicator (t : Token) (s : TokenReading) : TokenReading := { s.push t with cursor := s.cursor.next }

/-- The beginning of a flow collection. -/
def openFlow (t : Token) (s : TokenReading) : Except Fault TokenReading := do
  let s := (← s.rememberKey).indicator t
  return { s with keys := none :: s.keys, keyAllowed := true }

/-- The end of a flow collection. -/
def closeFlow (t : Token) (s : TokenReading) : Except Fault TokenReading := do
  if !s.inFlow then throw .malformed
  let s := (← s.forgetKey).indicator t
  return { s with keys := s.keys.tail, keyAllowed := false }

/-- A comma in a flow collection. -/
def flowEntry (s : TokenReading) : Except Fault TokenReading := do
  return { (← s.forgetKey).indicator .flowEntry with keyAllowed := true }

/-- The indicator of an item or of a key, which opens its block collection. -/
def blockIndicator (opening t : Token) (keyAllowed : Bool) (s : TokenReading) :
    Except Fault TokenReading := do
  if !s.inFlow && !s.keyAllowed then throw .malformed
  let s := if s.inFlow then s else s.openBlock s.count s.cursor.column opening
  return { (← s.forgetKey).indicator t with keyAllowed }

/-- The indicator of a value, with its key in front of it if there is one. -/
def valueIndicator (s : TokenReading) : Except Fault TokenReading :=
  match s.keys with
  | some k :: rest =>
    let s := { s with keys := none :: rest }.insertAt k.token .key
    let s := if s.inFlow then s else s.openBlock k.token k.column .blockMapping
    .ok { s.indicator .value with keyAllowed := false }
  | _ => s.blockIndicator .blockMapping .value (!s.inFlow)

/-- A token that may be a key, as it is read at its place. -/
def keyToken (read : Cursor → TokenRead) (s : TokenReading) : Except Fault TokenReading := do
  let s ← s.rememberKey
  let (t, cursor) ← read s.cursor
  return { s.push t with cursor, keyAllowed := false }

/-- A plain scalar. A key may follow it on a later line. -/
def plain (s : TokenReading) : Except Fault TokenReading := do
  let s ← s.rememberKey
  let r := plainScalar s.inFlow s.indent (s.cursor.size + 1) s.cursor
  return { s.push (.scalar r.text true) with cursor := r.cursor, keyAllowed := r.breaks }

/-- A block scalar. -/
def block (folded : Bool) (s : TokenReading) : Except Fault TokenReading := do
  let s ← s.forgetKey
  let (t, cursor) ← blockScalar folded (max s.indent 1) s.cursor.next
  return { s.push (.scalar t false) with cursor, keyAllowed := true }

/-- A scalar between quotes. -/
def quoted (double : Bool) : TokenReading → Except Fault TokenReading :=
  keyToken fun c ↦ do
    let (t, c) ← quotedText double (c.size + 1) c.next
    return (.scalar t false, c)

/-- The name after an indicator. -/
def named (token : Text → Token) : TokenReading → Except Fault TokenReading :=
  keyToken fun c ↦ do
    let (name, c) ← orMalformed (readName? c.next)
    return (token name, c)

/-- What ends all block collections: the end of the text, a directive or a mark of documents. -/
def outermost (s : TokenReading) : Except Fault TokenReading := do
  return { (← (s.unwind 0).forgetKey) with keyAllowed := false }

/-- A plain scalar begins with a certain character. -/
def startsPlain (inFlow : Bool) (c : CodePoint) (following : Option CodePoint) : Bool :=
  !(isGap (some c) || isOneOf "-?:,[]\x7b\x7d#&*!|>'\"%@`" (some c)) ||
    (!isGap following && (c = .scalar '-' || (!inFlow && isOneOf "?:" (some c))))

/-- The next token at its place. -/
def token (s : TokenReading) : Except Fault TokenReading :=
  let c := s.cursor
  let following := c.peekAt 1
  match c.peek with
  | none => do
    let s ← s.outermost
    return { s.push .streamEnd with keys := [none] }
  | some a =>
    let stands (x : Char) : Bool := a = .scalar x
    let opens (x : Char) : Bool := stands x && (s.inFlow || isGap following)
    if stands '%' && c.column = 0 then do
      let s ← s.outermost
      let (t, cursor) ← readDirective c
      return { s.push t with cursor }
    else if c.column = 0 && c.atMark '-' then do
      return { (← s.outermost).push .documentStart with cursor := c.advance 3 }
    else if c.column = 0 && c.atMark '.' then do
      return { (← s.outermost).push .documentEnd with cursor := c.advance 3 }
    else if stands '[' then s.openFlow .flowSequence
    else if stands '\x7b' then s.openFlow .flowMapping
    else if stands ']' then s.closeFlow .flowSequenceEnd
    else if stands '\x7d' then s.closeFlow .flowMappingEnd
    else if stands ',' then s.flowEntry
    else if stands '-' && isGap following then s.blockIndicator .blockSequence .blockEntry true
    else if opens '?' then s.blockIndicator .blockMapping .key (!s.inFlow)
    else if opens ':' then s.valueIndicator
    else if stands '*' then s.named .alias
    else if stands '&' then s.named .anchor
    else if stands '!' then s.keyToken fun c ↦ orMalformed (readTag? c)
    else if stands '|' && !s.inFlow then s.block false
    else if stands '>' && !s.inFlow then s.block true
    else if stands '\'' then s.quoted false
    else if stands '"' then s.quoted true
    else if startsPlain s.inFlow a following then s.plain
    else .error .malformed

/-- One more token, after what stands before it. -/
def step (s : TokenReading) : Except Fault TokenReading := do
  let c := if s.cursor.index = 0 ∧ s.cursor.peek = some byteOrderMark then s.cursor.next
    else s.cursor
  let (cursor, broke) := c.toToken (c.size + 1)
  let s := { s with cursor, keyAllowed := s.keyAllowed || (broke && !s.inFlow) }
  let s ← s.checkKeys
  (s.unwind (cursor.column + 1)).token

/-- The tokens that do not depend on what follows: those in front of what may still turn out to be a
key. -/
def settled (s : TokenReading) : List Token :=
  let isOpen (k : KeyPlace) : Bool := k.line = s.cursor.line && s.cursor.index - k.index ≤ 1024
  let places := (s.keys.filterMap id).filter isOpen
  s.tokens.reverse.take (places.foldl (fun n k ↦ min n k.token) s.count)

/-- All tokens; if the text has a fault, those in front of it and the fault. -/
def run : Nat → TokenReading → List Token × Option Fault
  | 0, s => (s.settled, some .malformed)
  | fuel + 1, s =>
    match s.step with
    | .error e => (s.settled, some e)
    | .ok s => if s.tokens.head? = some .streamEnd then (s.tokens.reverse, none) else run fuel s

end TokenReading

/-- The tokens of a text, and the fault if they end early. -/
def tokens (t : Text) : List Token × Option Fault :=
  if t.all isAllowed then TokenReading.run (t.length + 2) { cursor := .ofText t }
  else ([], some .malformed)

end ScriptDefs.Yaml
