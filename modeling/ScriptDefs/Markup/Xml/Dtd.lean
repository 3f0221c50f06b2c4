import ScriptDefs.Data.Assoc
import ScriptDefs.Markup.Xml.Lexical

/-!
# Document type declarations

The internal part of a document type declaration: its tokens, the grammar of its declarations, and the
entities that they declare. Of the first declaration of an entity and later ones, the first counts.
External parts are never read; once one is skipped, entities may be missing without fault.
-/

namespace ScriptDefs.Markup.Xml

/-- A declared entity. -/
inductive Entity where
  | internal (text : Text)
  | external
  | unparsed
  deriving DecidableEq, Repr

/-- What is known of the entities of a document. -/
structure Dtd where
  entities : Assoc Text Entity := []
  parameters : Assoc Text Entity := []
  /-- The document declares that it needs no external declarations. -/
  standalone : Bool := false
  /-- Declarations may have been skipped. -/
  incomplete : Bool := false
  /-- Declarations still count. -/
  reading : Bool := true
  deriving Repr

/-- How often the content in front is repeated. -/
inductive Repetition where
  | once
  | marked
  deriving DecidableEq, Repr

/-- A token of a document type declaration. White space is left out. -/
inductive DtdToken where
  | declaration (keyword : Text)
  | name (t : Text) (repetition : Repetition)
  | nmtoken (t : Text)
  | poundName (t : Text)
  | literal (t : Text)
  | percent
  | parameter (name : Text)
  | openParen
  | closeParen (mark : Option Char)
  | bar
  | comma
  | openBracket
  | closeBracket
  | close
  | misc
  deriving DecidableEq, Repr

/-- The next code point is one of a set, or the text ends. -/
def followedBy (set : String) (t : Text) : Bool :=
  match t with
  | [] => false
  | c :: _ => isSpace c || (Text.ofString set).contains c

/-- A keyword after `<!`, up to white space or a reference. -/
def readKeyword? (t : Text) : Option (DtdToken × Text) :=
  let isLetter (c : CodePoint) : Bool := Alphabet.standard.isNameStart c && c.toNat < 0x80
  let keyword := t.takeWhile isLetter
  let rest := t.dropWhile isLetter
  match keyword, rest with
  | [], _ => none
  | _, .scalar '%' :: c :: _ =>
    if isSpace c ∨ c = .scalar '%' then none else some (.declaration keyword, rest)
  | _, c :: _ => if isSpace c then some (.declaration keyword, rest) else none
  | _, [] => none

/-- A word that is a name or begins with another code point of names. -/
def readWord? (a : Alphabet) (t : Text) : Option (DtdToken × Text) :=
  let word := t.takeWhile a.isNameChar
  let rest := t.dropWhile a.isNameChar
  match word with
  | [] => none
  | c :: _ =>
    if a.isNameStart c then
      match rest with
      | .scalar m :: rest' =>
        if m = '?' ∨ m = '*' ∨ m = '+' then some (.name word .marked, rest')
        else if followedBy ">),|[%" rest then some (.name word .once, rest)
        else none
      | _ => none
    else if followedBy ">),|[%" rest then some (.nmtoken word, rest)
    else none

/-- The token at the start of a text that does not begin with white space. -/
def readDtdToken? (a : Alphabet) (t : Text) : Option (DtdToken × Text) :=
  match t with
  | [] => none
  | .scalar '<' :: .scalar '!' :: .scalar '-' :: .scalar '-' :: rest =>
    (skipComment? rest).map fun r ↦ (.misc, r)
  | .scalar '<' :: .scalar '!' :: rest => readKeyword? rest
  | .scalar '<' :: .scalar '?' :: rest => (a.skipInstruction? rest).map fun r ↦ (.misc, r)
  | .scalar '"' :: _ | .scalar '\'' :: _ =>
    match readLiteral? t with
    | some (s, rest) => if followedBy ">%[" rest then some (.literal s, rest) else none
    | none => none
  | .scalar '%' :: rest =>
    match rest with
    | [] => none
    | c :: _ =>
      if isSpace c ∨ c = .scalar '%' then some (.percent, rest)
      else
        match a.readName? rest with
        | some (name, .scalar ';' :: rest') => some (.parameter name, rest')
        | _ => none
  | .scalar '(' :: rest => some (.openParen, rest)
  | .scalar ')' :: .scalar '*' :: rest => some (.closeParen (some '*'), rest)
  | .scalar ')' :: .scalar '?' :: rest => some (.closeParen (some '?'), rest)
  | .scalar ')' :: .scalar '+' :: rest => some (.closeParen (some '+'), rest)
  | .scalar ')' :: rest => if followedBy ">,|)" rest then some (.closeParen none, rest) else none
  | .scalar '|' :: rest => some (.bar, rest)
  | .scalar ',' :: rest => some (.comma, rest)
  | .scalar '[' :: rest => some (.openBracket, rest)
  | .scalar ']' :: .scalar ']' :: .scalar '>' :: _ => none
  | .scalar ']' :: rest => some (.closeBracket, rest)
  | .scalar '>' :: rest => some (.close, rest)
  | .scalar '#' :: rest =>
    match a.readName? rest with
    | some (name, rest') => if followedBy ")>%|" rest' then some (.poundName name, rest') else none
    | none => none
  | _ => readWord? a t

/-- The tokens of a text as a whole, at most `fuel` of them. -/
def dtdTokens? (a : Alphabet) : Nat → Text → Option (List DtdToken)
  | 0, _ => none
  | fuel + 1, t =>
    match skipSpace t with
    | [] => some []
    | start =>
      match readDtdToken? a start with
      | none => none
      | some (token, rest) => (dtdTokens? a fuel rest).map (token :: ·)

/-- The tokens up to the `>` that closes the declaration they belong to, and the text after it. Between
brackets a `>` closes another declaration. -/
def doctypeTokens? (a : Alphabet) : Nat → Bool → Text → Option (List DtdToken × Text)
  | 0, _, _ => none
  | fuel + 1, inside, t =>
    match readDtdToken? a (skipSpace t) with
    | none => none
    | some (.close, rest) =>
      if inside then (doctypeTokens? a fuel inside rest).map fun r ↦ (.close :: r.1, r.2)
      else some ([], rest)
    | some (.openBracket, rest) =>
      if inside then none
      else (doctypeTokens? a fuel true rest).map fun r ↦ (.openBracket :: r.1, r.2)
    | some (.closeBracket, rest) =>
      if inside then (doctypeTokens? a fuel false rest).map fun r ↦ (.closeBracket :: r.1, r.2)
      else none
    | some (token, rest) => (doctypeTokens? a fuel inside rest).map fun r ↦ (token :: r.1, r.2)

/-! ## Values -/

/-- The sum of the lengths of entities and of a text, and one more for each. It bounds the steps and the
depth of a reading of the text with the entities it refers to, each opened at most once on the way to the
innermost. -/
def boundOf (entities : Assoc Text Entity) (t : Text) : Nat :=
  t.length + 1 + (entities.map fun e ↦
    match e.2 with
    | .internal text => text.length + 1
    | _ => 1).foldr (· + ·) 0

/-- The value of an entity, and whether a parameter entity in it is missing. Numeric references stand for
their characters, and references to entities stay. References to parameter entities are allowed in the text
of other parameter entities only: `opened` holds the names of these. -/
def entityValue? (dtd : Dtd) :
    Nat → Alphabet → Option (List Text) → Text → Option (Text × Bool)
  | 0, _, _, _ => none
  | _, _, _, [] => some ([], false)
  | fuel + 1, a, some opened, .scalar '%' :: t =>
    match a.readName? t with
    | some (name, .scalar ';' :: rest) => do
      guard !(opened.contains name)
      let (start, missing) ←
        match dtd.parameters.lookup name with
        | some (.internal text) => entityValue? dtd fuel .standard (some (name :: opened)) text
        | _ => some ([], true)
      let (value, missing') ← entityValue? dtd fuel a (some opened) rest
      return (start ++ value, missing || missing')
    | _ => none
  | _, _, none, .scalar '%' :: _ => none
  | fuel + 1, a, opened, .scalar '&' :: t => do
    let (r, rest) ← a.readReference? t
    let (value, missing) ← entityValue? dtd fuel a opened rest
    match r with
    | .char c => return (c :: value, missing)
    | .entity name => return (.scalar '&' :: name ++ .scalar ';' :: value, missing)
  | fuel + 1, a, opened, c :: t =>
    (entityValue? dtd fuel a opened t).map fun r ↦ (c :: r.1, r.2)

/-- The most characters that references may expand to. -/
def expansionLimit : Nat := 8388608

/-- The value of an attribute is well formed. The result counts the characters of the entities that it
refers to, on top of those counted before. -/
def checkAttribute? (dtd : Dtd) : Nat → Alphabet → List Text → Text → Nat → Option Nat
  | 0, _, _, _, _ => none
  | fuel + 1, a, opened, t, spent =>
    match t with
    | [] => some spent
    | .scalar '<' :: _ => none
    | .scalar '&' :: rest =>
      match a.readReference? rest with
      | none => none
      | some (.char _, rest') => checkAttribute? dtd fuel a opened rest' spent
      | some (.entity name, rest') =>
        if (predefined.lookup name).isSome then checkAttribute? dtd fuel a opened rest' spent
        else
          match dtd.entities.lookup name with
          | none =>
            if dtd.incomplete && !dtd.standalone then checkAttribute? dtd fuel a opened rest' spent
            else none
          | some (.internal text) =>
            if opened.contains name ∨ expansionLimit < spent + text.length then none
            else
              match checkAttribute? dtd fuel .standard (name :: opened) text (spent + text.length) with
              | none => none
              | some spent' => checkAttribute? dtd fuel a opened rest' spent'
          | some _ => none
    | _ :: rest => checkAttribute? dtd fuel a opened rest spent

/-- Bounds the steps and the depth of a reading of a text with the entities it refers to. -/
def Dtd.bound (dtd : Dtd) (t : Text) : Nat := boundOf dtd.entities t

/-- Code points of public identifiers. -/
def isPublicChar (c : CodePoint) : Bool :=
  match c with
  | .scalar c => c.isAlphanum || " \n\r-'()+,./:=?;!*#@$_%".toList.contains c
  | .surrogate _ => false

/-! ## Declarations -/

/-- The token is a certain keyword. -/
def isWord (word : String) : DtdToken → Bool
  | .name t .once => t = Text.ofString word
  | _ => false

/-- An external identifier at the start of tokens, and the tokens after it. -/
def skipExternal? : List DtdToken → Option (List DtdToken)
  | word :: .literal a :: rest =>
    if isWord "SYSTEM" word then some rest
    else if isWord "PUBLIC" word ∧ a.all isPublicChar then
      match rest with
      | .literal _ :: rest' => some rest'
      | _ => none
    else none
  | _ => none

/-- The end of a declaration. -/
def skipClose? : List DtdToken → Option (List DtdToken)
  | .close :: rest => some rest
  | _ => none

/-- An entity put under a name that has none yet. -/
def declareIn (name : Text) (e : Entity) (m : Assoc Text Entity) : Assoc Text Entity :=
  if (m.lookup name).isSome then m else m ++ [(name, e)]

/-- A general entity declared, unless it is predefined or declarations do not count any more. -/
def declareEntity (name : Text) (e : Entity) (dtd : Dtd) : Dtd :=
  if dtd.reading && (predefined.lookup name).isNone then
    { dtd with entities := declareIn name e dtd.entities }
  else dtd

/-- A parameter entity declared, unless declarations do not count any more. -/
def declareParameter (name : Text) (e : Entity) (dtd : Dtd) : Dtd :=
  if dtd.reading then { dtd with parameters := declareIn name e dtd.parameters } else dtd

/-- Where declarations stand: in which alphabet, and in the text of which parameter entities, if any. -/
structure DtdPlace where
  alphabet : Alphabet
  opened : List Text := []

/-- The parameter entities around a value: none in the document itself. -/
def DtdPlace.parameters? (place : DtdPlace) : Option (List Text) :=
  if place.opened.isEmpty then none else some place.opened

/-- The place of the value of a parameter entity, which must not refer to itself if it is new. -/
def DtdPlace.within (place : DtdPlace) (name : Text) (dtd : Dtd) : DtdPlace :=
  if place.opened.isEmpty || (dtd.parameters.lookup name).isSome then place
  else { place with opened := name :: place.opened }

/-- The value of an entity, and whether declarations still count after it. The value is not looked at once
they do not count any more. -/
def valueFor? (dtd : Dtd) (place : DtdPlace) (t : Text) : Option (Text × Bool) :=
  if dtd.reading then
    (entityValue? dtd (boundOf dtd.parameters t) place.alphabet place.parameters? t).map fun r ↦
      (r.1, !r.2)
  else some (t, false)

/-- The declaration of an entity after its keyword. -/
def readEntity? (dtd : Dtd) (place : DtdPlace) : List DtdToken → Option (Dtd × List DtdToken)
  | .percent :: .name name .once :: .literal value :: rest => do
    let (text, reading) ← valueFor? dtd (place.within name dtd) value
    return ({ declareParameter name (.internal text) dtd with reading }, ← skipClose? rest)
  | .percent :: .name name .once :: rest => do
    return (declareParameter name .external dtd, ← skipClose? (← skipExternal? rest))
  | .name name .once :: .literal value :: rest => do
    let (text, reading) ← valueFor? dtd place value
    return ({ declareEntity name (.internal text) dtd with reading }, ← skipClose? rest)
  | .name name .once :: rest => do
    match ← skipExternal? rest with
    | .close :: rest' => return (declareEntity name .external dtd, rest')
    | word :: .name _ .once :: .close :: rest' =>
      if isWord "NDATA" word then return (declareEntity name .unparsed dtd, rest') else none
    | _ => none
  | _ => none

/-- The declaration of a notation after its keyword. -/
def readNotation? : List DtdToken → Option (List DtdToken)
  | .name _ .once :: word :: .literal a :: .close :: rest =>
    if isWord "SYSTEM" word ∨ (isWord "PUBLIC" word ∧ a.all isPublicChar) then some rest else none
  | .name _ .once :: word :: .literal a :: .literal _ :: .close :: rest =>
    if isWord "PUBLIC" word ∧ a.all isPublicChar then some rest else none
  | _ => none

/-- Alternatives with bars between them, up to the closing parenthesis. -/
def skipAlternatives? (isItem : DtdToken → Bool) : List DtdToken → Option (List DtdToken)
  | item :: .bar :: rest => if isItem item then skipAlternatives? isItem rest else none
  | item :: .closeParen none :: rest => if isItem item then some rest else none
  | _ => none

/-- A word of an enumeration. -/
def isToken : DtdToken → Bool
  | .name _ .once => true
  | .nmtoken _ => true
  | _ => false

/-- A plain name. -/
def isName : DtdToken → Bool
  | .name _ .once => true
  | _ => false

/-- The types of attributes that are named by a keyword. -/
def attributeTypes : List String :=
  ["CDATA", "ID", "IDREF", "IDREFS", "ENTITY", "ENTITIES", "NMTOKEN", "NMTOKENS"]

/-- The type of an attribute. -/
def skipAttributeType? : List DtdToken → Option (List DtdToken)
  | .openParen :: rest => skipAlternatives? isToken rest
  | word :: rest =>
    if attributeTypes.any fun k ↦ isWord k word then some rest
    else
      match rest with
      | .openParen :: rest' => if isWord "NOTATION" word then skipAlternatives? isName rest' else none
      | _ => none
  | [] => none

/-- The value of an attribute that is not given. -/
def skipDefault? (dtd : Dtd) (a : Alphabet) : List DtdToken → Option (List DtdToken)
  | .poundName p :: rest =>
    if p = Text.ofString "IMPLIED" ∨ p = Text.ofString "REQUIRED" then some rest
    else if p = Text.ofString "FIXED" then
      match rest with
      | .literal v :: rest' => checked v rest'
      | _ => none
    else none
  | .literal v :: rest => checked v rest
  | _ => none
where
  /-- The tokens after a default value, if that is well formed. -/
  checked (v : Text) (rest : List DtdToken) : Option (List DtdToken) :=
    if dtd.reading then (checkAttribute? dtd (dtd.bound v) a [] v 0).map fun _ ↦ rest
    else some rest

/-- The attributes of an element, at most `fuel` of them, up to the end of the declaration. -/
def skipAttributes? (dtd : Dtd) (a : Alphabet) : Nat → List DtdToken → Option (List DtdToken)
  | 0, _ => none
  | _, .close :: rest => some rest
  | fuel + 1, .name _ .once :: rest => do
    skipAttributes? dtd a fuel (← skipDefault? dtd a (← skipAttributeType? rest))
  | _, _ => none

/-- Mixed content after its first word: names with bars in front, or nothing. -/
def skipMixed? : List DtdToken → Option (List DtdToken)
  | .closeParen none :: rest => some rest
  | .closeParen (some '*') :: rest => some rest
  | .bar :: .name _ .once :: rest => names rest
  | _ => none
where
  /-- Further names, up to the closing parenthesis with its star. -/
  names : List DtdToken → Option (List DtdToken)
    | .closeParen (some '*') :: rest => some rest
    | .bar :: .name _ .once :: rest => names rest
    | _ => none

/-- Element content: the connectors of the groups that are open, the innermost first. All connectors of a
group are equal. -/
def skipModel? : Nat → List (Option DtdToken) → Bool → List DtdToken → Option (List DtdToken)
  | 0, _, _, _ => none
  | _, [], _, rest => some rest
  | fuel + 1, groups, true, .openParen :: rest => skipModel? fuel (none :: groups) true rest
  | fuel + 1, groups, true, .name _ _ :: rest => skipModel? fuel groups false rest
  | fuel + 1, _ :: groups, false, .closeParen _ :: rest => skipModel? fuel groups false rest
  | fuel + 1, connector :: groups, false, token :: rest =>
    if (token = .bar ∨ token = .comma) ∧ (connector = none ∨ connector = some token) then
      skipModel? fuel (some token :: groups) true rest
    else none
  | _, _, _, _ => none

/-- The declaration of an element after its keyword. -/
def readElement? : List DtdToken → Option (List DtdToken)
  | .name _ .once :: .openParen :: .poundName p :: rest =>
    if p = Text.ofString "PCDATA" then (skipMixed? rest).bind skipClose? else none
  | .name _ .once :: .openParen :: rest =>
    (skipModel? (2 * rest.length + 2) [none] true rest).bind skipClose?
  | .name _ .once :: word :: rest =>
    if isWord "EMPTY" word ∨ isWord "ANY" word then skipClose? rest else none
  | _ => none

/-- Declarations, at most `fuel` of them; the text of a parameter entity holds whole declarations. -/
def readSubset? : Nat → DtdPlace → Dtd → List DtdToken → Option Dtd
  | 0, _, _, _ => none
  | _, _, dtd, [] => some dtd
  | fuel + 1, place, dtd, .misc :: rest => readSubset? fuel place dtd rest
  | fuel + 1, place, dtd, .declaration keyword :: rest => do
    if keyword = Text.ofString "ENTITY" then
      let (dtd', rest') ← readEntity? dtd place rest
      readSubset? fuel place dtd' rest'
    else if keyword = Text.ofString "NOTATION" then
      readSubset? fuel place dtd (← readNotation? rest)
    else if keyword = Text.ofString "ELEMENT" then
      readSubset? fuel place dtd (← readElement? rest)
    else if keyword = Text.ofString "ATTLIST" then
      match rest with
      | .name _ .once :: rest' =>
        readSubset? fuel place dtd (← skipAttributes? dtd place.alphabet (rest'.length + 1) rest')
      | _ => none
    else none
  | fuel + 1, place, dtd, .parameter name :: rest => do
    let dtd := { dtd with incomplete := true }
    if dtd.standalone then readSubset? fuel place dtd rest
    else
      match dtd.parameters.lookup name with
      | some (.internal text) =>
        if place.opened.contains name then none
        else
          let tokens ← dtdTokens? .standard (text.length + 1) text
          let inside : DtdPlace := ⟨.standard, name :: place.opened⟩
          readSubset? fuel place (← readSubset? fuel inside dtd tokens) rest
      | _ => readSubset? fuel place { dtd with reading := false } rest
  | _, _, _, _ => none

/-- A document type declaration after its keyword, and the text after it. -/
def readDoctype? (a : Alphabet) (standalone : Bool) (t : Text) : Option (Dtd × Text) := do
  let (tokens, rest) ← doctypeTokens? a (t.length + 1) false t
  match tokens with
  | .name _ .once :: more =>
    let (incomplete, subset) :=
      match skipExternal? more with
      | some after => (true, after)
      | none => (false, more)
    let start : Dtd := { standalone, incomplete }
    match subset with
    | [] => return (start, rest)
    | .openBracket :: body =>
      if body.getLast? = some .closeBracket then
        return (← readSubset? (2 * t.length + 2) ⟨a, []⟩ start body.dropLast, rest)
      else none
    | _ => none
  | _ => none

end ScriptDefs.Markup.Xml
