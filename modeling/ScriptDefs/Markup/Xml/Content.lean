import ScriptDefs.Markup.Callback
import ScriptDefs.Markup.Xml.Dtd
import ScriptDefs.Text.Decoding

/-!
# Content of XML elements

Tags, character data and references, as the callbacks that report them. Where content turns out to be
malformed, the callbacks up to there remain.
-/

namespace ScriptDefs.Markup.Xml

/-- How far the content of a document has been read. -/
structure Progress where
  /-- The open elements, the innermost first. -/
  tags : List Text := []
  /-- What has been reported, the last first. -/
  callbacks : List Callback := []
  /-- How many characters references have been expanded to. -/
  spent : Nat := 0
  deriving Repr

namespace Progress

/-- One more report. -/
def report (c : Callback) (p : Progress) : Progress := { p with callbacks := c :: p.callbacks }

/-- One more open element. -/
def enter (tag : Text) (p : Progress) : Progress :=
  { p.report (.startElement tag) with tags := tag :: p.tags }

/-- The innermost open element ends. -/
def leave (p : Progress) : Progress := { p.report .endElement with tags := p.tags.tail }

/-- Character data, unless there is none. -/
def data (content : Text) (p : Progress) : Progress :=
  if content.isEmpty then p else p.report (.characters content)

end Progress

/-- The end of a start tag: whether the element ends with it, the text after it, and the characters that
references have been expanded to. -/
structure TagEnd where
  isEmpty : Bool
  rest : Text
  spent : Nat

/-- The attributes after the name of a start tag, at most `fuel` of them, each with a name of its own. -/
def readAttributes? (dtd : Dtd) (a : Alphabet) : Nat → List Text → Text → Nat → Option TagEnd
  | 0, _, _, _ => none
  | fuel + 1, seen, t, spent =>
    match skipSpace t with
    | .scalar '/' :: .scalar '>' :: rest => some ⟨true, rest, spent⟩
    | .scalar '>' :: rest => some ⟨false, rest, spent⟩
    | start => do
      guard (t.head?.any isSpace)
      let (name, afterName) ← a.readName? start
      guard !(seen.contains name)
      match skipSpace afterName with
      | .scalar '=' :: afterSign =>
        let (value, rest) ← readLiteral? (skipSpace afterSign)
        let spent ← checkAttribute? dtd (dtd.bound value) a [] value spent
        readAttributes? dtd a fuel (name :: seen) rest spent
      | _ => none

/-- A start tag after its `<`, with at most `fuel` attributes. -/
def readStartTag? (dtd : Dtd) (a : Alphabet) (fuel : Nat) (t : Text) (spent : Nat) :
    Option (Text × TagEnd) := do
  let (name, rest) ← a.readName? t
  return (name, ← readAttributes? dtd a fuel [] rest spent)

/-- An end tag after its `</`. -/
def readEndTag? (a : Alphabet) (t : Text) : Option (Text × Text) := do
  let (name, rest) ← a.readName? t
  match skipSpace rest with
  | .scalar '>' :: rest' => return (name, rest')
  | _ => none

/-- Content from its start on. In a document (`floor = 0`) the content ends with the outermost element. In
the text of an entity it ends with the text, and all elements that began in it have to end in it. The names
in `opened` are those of the entities around it. Without a rest the content is malformed. -/
def readContent (dtd : Dtd) :
    Nat → Alphabet → List Text → Nat → Text → Progress → Progress × Option Text
  | 0, _, _, _, _, p => (p, none)
  | fuel + 1, a, opened, floor, t, p =>
    let continued (p : Progress) (rest : Text) := readContent dtd fuel a opened floor rest p
    match t with
    | [] => (p, if floor ≠ 0 ∧ p.tags.length = floor then some [] else none)
    | .scalar '<' :: .scalar '/' :: rest =>
      match readEndTag? a rest with
      | none => (p, none)
      | some (name, rest') =>
        if p.tags.head? = some name ∧ floor < p.tags.length then
          let p' := p.leave
          if p'.tags.isEmpty then (p', some rest') else continued p' rest'
        else (p, none)
    | .scalar '<' :: .scalar '!' :: .scalar '-' :: .scalar '-' :: rest =>
      match skipComment? rest with
      | none => (p, none)
      | some rest' => continued p rest'
    | .scalar '<' :: .scalar '!' :: rest =>
      match (Text.ofString "[CDATA[").isPrefixOf? rest with
      | none => (p, none)
      | some start =>
        match readSection? start with
        | none => (p, none)
        | some (content, rest') => continued (p.data content) rest'
    | .scalar '<' :: .scalar '?' :: rest =>
      match a.skipInstruction? rest with
      | none => (p, none)
      | some rest' => continued p rest'
    | .scalar '<' :: rest =>
      match readStartTag? dtd a (fuel + 1) rest p.spent with
      | none => (p, none)
      | some (tag, tagEnd) =>
        let p' := { p.enter tag with spent := tagEnd.spent }
        if tagEnd.isEmpty then
          let p'' := p'.leave
          if p''.tags.isEmpty then (p'', some tagEnd.rest) else continued p'' tagEnd.rest
        else continued p' tagEnd.rest
    | .scalar '&' :: rest =>
      match a.readReference? rest with
      | none => (p, none)
      | some (.char c, rest') => continued (p.data [c]) rest'
      | some (.entity name, rest') =>
        match predefined.lookup name with
        | some c => continued (p.data [.scalar c]) rest'
        | none =>
          match dtd.entities.lookup name with
          | none => if dtd.incomplete && !dtd.standalone then continued p rest' else (p, none)
          | some .unparsed => (p, none)
          | some .external => if opened.contains name then (p, none) else continued p rest'
          | some (.internal text) =>
            let spent := p.spent + text.length
            if opened.contains name ∨ expansionLimit < spent then (p, none)
            else
              match readContent dtd fuel .standard (name :: opened) p.tags.length
                  (Text.unifyLineBreaks text) { p with spent } with
              | (p', none) => (p', none)
              | (p', some _) => continued p' rest'
    | _ =>
      match readData? t with
      | none => (p, none)
      | some (content, rest) => continued (p.data content) rest

end ScriptDefs.Markup.Xml
