import ScriptDefs.Random.MersenneTwister
import ScriptDefs.Text.Decoding
import ScriptDefs.Types.Format

/-!
# Sample calls

A sample call gives every argument a literal of its type. Literals that look random are drawn from a
generator seeded with the name of the function, the number of the signature and the offset into the
unions of types, so that the same document always has the same samples.
-/

namespace ScriptDefs

/-- Why a sample cannot be made. -/
inductive SampleError where
  | noSignature (index : Nat)
  | unencodableSeed (seed : Text)
  | format (e : FormatError)
  deriving Repr

/-- A sample call and the number of its signature. -/
structure Sample where
  text : Text
  signature : Nat
  deriving DecidableEq, Repr

namespace Sample

/-- What stands for one argument, and the function that it needs, if any. -/
structure Part where
  value : Datum
  stub : Option Text

/-- Signatures with more arguments are written with one argument on a line. -/
def verboseFrom : Nat := 3

/-- The offsets tried for the signatures after the first one. -/
def offsets : List Nat := [0, 1, 2, 3, 4]

/-- What stands before an integer literal. -/
def integerWrapper : Text := "integer("

/-- The literal of a type that needs no random number. -/
def fixedLiteral (verbose : Bool) : SimpleType → Text
  | .quaternion => "quaternion(0,0,0,1)"
  | .number => "3.14"
  | .list => "\x7b\x7d"
  | .emptyTable => "\x7b\x7d"
  | .vector => "vector(1,1,1)"
  | .boolean => "true"
  | .string => "'test'"
  | .self => "self"
  | .nil => "nil"
  | .buffer => "buffer.create(0)"
  | .any => "nil"
  | .noValue => "nil"
  | .uuid => if verbose then "uuid('677bf9a4-bba5-4cf9-a4ad-4802a0f7ef46')" else "uuid(<key>)"
  | .numeric => []
  | .integer => []

/-- The literal of a simple type. -/
def simpleLiteral (verbose : Bool) (s : SimpleType) (g : MersenneTwister) :
    Text × MersenneTwister :=
  match s with
  | .numeric =>
    let (n, g') := g.belowSixteen
    (Text.ofNat n, g')
  | .integer =>
    let (n, g') := g.belowSixteen
    (integerWrapper ++ Text.ofNat n ++ [.scalar ')'], g')
  | s => (fixedLiteral verbose s, g)

/-- What stands for an argument of a type; a function is written out in front and called by name. -/
def partOf (types : Assoc Text Alias) (verbose : Bool) (name : Datum) (type : BaseType)
    (g : MersenneTwister) : Except FormatError (Part × MersenneTwister) :=
  let simple (s : SimpleType) :=
    let (t, g') := simpleLiteral verbose s g
    (⟨.text t, none⟩, g')
  match type with
  | .simple s => .ok (simple s)
  | .literal v => do return (⟨.text (← v.display), none⟩, g)
  | .function s => do return (⟨name, some (← s.stub name)⟩, g)
  | .table _ => .ok (⟨.text "\x7b\x7d", none⟩, g)
  | .custom custom =>
    match (types.lookup custom).map Alias.types with
    | some (.simple s :: _) => .ok (simple s)
    | some (.literal v :: _) => do return (⟨.text (← v.display), none⟩, g)
    | some (.function s :: _) => do return (⟨name, some (← s.stub name)⟩, g)
    | _ => .ok (⟨.text custom, none⟩, g)

/-- The type at an offset, or else the first one. -/
def pick (types : List BaseType) (offset : Nat) : Option BaseType := types[offset]?.or types.head?

/-- What stands for each argument in turn. -/
def parts (types : Assoc Text Alias) (verbose : Bool) (offset : Nat) :
    List Variable → MersenneTwister → Except FormatError (List Part)
  | [], _ => .ok []
  | a :: rest, g =>
    match pick a.types offset with
    | none => parts types verbose offset rest g
    | some type => do
      let (part, g') ← partOf types verbose a.name type g
      return part :: (← parts types verbose offset rest g')

/-- A call with its arguments on one line, or with one argument on a line. -/
def call (verbose : Bool) (name : Text) (args : List Text) : Text :=
  if verbose then
    name ++ Text.ofString "(\n  " ++ Text.joinWith ",\n  " args ++ Text.ofString "\n)"
  else name ++ .scalar '(' :: Text.joinWith ", " args ++ [.scalar ')']

end Sample

namespace Function

/-- The name of a function inside the tables that lead to it. -/
def qualifiedName (f : Function) (tables : List Text) : Text :=
  if tables.isEmpty then f.name
  else Text.joinWith "." tables ++ .scalar (if f.takesSelf then ':' else '.') :: f.name

/-- What the generator for a sample is seeded with. -/
def seedText (f : Function) (tables : List Text) (index offset : Nat) : Text :=
  f.qualifiedName tables ++ .scalar ':' :: Text.ofNat index ++ .scalar ':' :: Text.ofNat offset

/-- A sample call for one signature; the offset tells which type of a union each argument has. -/
def sample (f : Function) (types : Assoc Text Alias) (tables : List Text) (index offset : Nat)
    (verbose? : Option Bool) : Except SampleError Text :=
  match f.signatures[index]? with
  | none => .error (.noSignature index)
  | some s =>
    let seed := f.seedText tables index offset
    match seed.toUtf8? with
    | none => .error (.unencodableSeed seed)
    | some bytes =>
      let verbose := verbose?.getD (Sample.verboseFrom < s.args.length)
      let text : Except FormatError Text := do
        let parts ← Sample.parts types verbose offset s.args (MersenneTwister.ofBytes bytes)
        let stubs := parts.filterMap (·.stub)
        let values := parts.map (·.value)
        let args ← (if f.takesSelf then values.drop 1 else values).mapM Datum.asText
        let head := if stubs.isEmpty then [] else Text.joinWith "\n\n" stubs ++ Text.ofString "\n\n"
        return head ++ Sample.call verbose (f.qualifiedName tables) args
      text.mapError .format

/-- The samples among which the preferred one is found: signature and offset. -/
def sampleCandidates (f : Function) : List (Nat × Nat) :=
  (0, 0) :: ((List.range f.signatures.length).drop 1).flatMap fun i ↦
    Sample.offsets.map fun o ↦ (i, o)

/-- A candidate with the number of its integer literals and of its arguments. -/
def rankedSample (f : Function) (types : Assoc Text Alias) (tables : List Text)
    (candidate : Nat × Nat) : Except SampleError (Nat × Nat × Sample) := do
  let text ← f.sample types tables candidate.1 candidate.2 none
  let count := ((f.signatures[candidate.1]?).map (·.args.length)).getD 0
  return (Text.occurrences Sample.integerWrapper text, count, ⟨text, candidate.1⟩)

/-- The better of two ranked samples: fewer integer literals, then more arguments, then the former. -/
def betterSample (best next : Nat × Nat × Sample) : Nat × Nat × Sample :=
  if next.1 < best.1 ∨ (next.1 = best.1 ∧ best.2.1 < next.2.1) then next else best

/-- The best sample over all signatures. -/
def preferredSample (f : Function) (types : Assoc Text Alias) (tables : List Text) :
    Except SampleError Sample := do
  let first ← f.rankedSample types tables (0, 0)
  let others ← (f.sampleCandidates.drop 1).mapM (f.rankedSample types tables)
  return (others.foldl betterSample first).2.2

end Function

end ScriptDefs
