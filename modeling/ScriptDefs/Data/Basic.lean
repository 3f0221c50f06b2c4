import ScriptDefs.Data.Calendar
import ScriptDefs.Number.Binary64

/-!
# Plain data

The value model of the data formats: scalars, lists, and maps in the order of their entries. That is all
in data of JSON texts, where all keys are texts. Indented documents can hold other keys and scalars as well,
and pairs, sets, and collections that are a part of themselves.
-/

namespace ScriptDefs

/-- A value without parts. -/
inductive Scalar where
  | null
  | bool (b : Bool)
  | int (n : Int)
  | float (x : Binary64)
  | text (t : Text)
  | date (d : Date)
  | moment (m : Moment)
  | bytes (b : List UInt8)
  deriving DecidableEq, Repr

/-- The kinds of value that messages name. -/
inductive DatumKind where
  | null
  | bool
  | int
  | float
  | text
  | date
  | moment
  | bytes
  | list
  | pair
  | set
  | map
  deriving DecidableEq, Repr

/-- A value: a scalar or a collection. -/
inductive Datum where
  | scalar (s : Scalar)
  | list (items : List Datum)
  | pair (first second : Datum)
  | set (members : List Scalar)
  /-- The entries keep their order. -/
  | map (entries : List (Scalar × Datum))
  /-- A collection that is a part of itself, with a label. -/
  | knot (label : Nat) (body : Datum)
  /-- The innermost collection around this place that has a label. -/
  | again (label : Nat) (kind : DatumKind)
  deriving Repr

namespace Scalar

/-- Numbers count as truth values too: zero is false, one is true. -/
def toNumber? : Scalar → Option (Int ⊕ Binary64)
  | .bool b => some (.inl (if b then 1 else 0))
  | .int n => some (.inl n)
  | .float x => some (.inr x)
  | _ => none

/-- Two numbers of either kind are equal exactly; not-a-number is equal to itself. -/
def sameNumber : Int ⊕ Binary64 → Int ⊕ Binary64 → Bool
  | .inl m, .inl n => m == n
  | .inl m, .inr x => x.toInt? == some m
  | .inr x, .inl n => x.toInt? == some n
  | .inr x, .inr y => x == y || (x.isZero && y.isZero)

/-- Two scalars are the same key of a map: numbers by value, whatever their kind. -/
def sameKey (a b : Scalar) : Bool :=
  match a.toNumber?, b.toNumber? with
  | some m, some n => sameNumber m n
  | none, none =>
    match a, b with
    | .moment p, .moment q => p.sameInstant q
    | _, _ => a == b
  | _, _ => false

/-- The kind of a scalar. -/
def kind : Scalar → DatumKind
  | .null => .null
  | .bool _ => .bool
  | .int _ => .int
  | .float _ => .float
  | .text _ => .text
  | .date _ => .date
  | .moment _ => .moment
  | .bytes _ => .bytes

/-- Scalars that count as present: not null, false, zero or empty. -/
def isTruthy : Scalar → Bool
  | .null => false
  | .bool b => b
  | .int n => n != 0
  | .float x => !x.isZero
  | .text t => !t.isEmpty
  | .date _ => true
  | .moment _ => true
  | .bytes b => !b.isEmpty

end Scalar

namespace Datum

/-- The null value. -/
@[match_pattern]
abbrev null : Datum := .scalar .null

/-- A truth value. -/
@[match_pattern]
abbrev bool (b : Bool) : Datum := .scalar (.bool b)

/-- An integer. -/
@[match_pattern]
abbrev int (n : Int) : Datum := .scalar (.int n)

/-- A floating-point number. -/
@[match_pattern]
abbrev float (x : Binary64) : Datum := .scalar (.float x)

/-- A text. -/
@[match_pattern]
abbrev text (t : Text) : Datum := .scalar (.text t)

instance : Inhabited Datum := ⟨null⟩

/-- A map with texts as keys. -/
def object (fields : List (Text × Datum)) : Datum :=
  .map (fields.map fun f ↦ (.text f.1, f.2))

/-- The kind of a value. -/
def kind : Datum → DatumKind
  | .scalar s => s.kind
  | .list _ => .list
  | .pair _ _ => .pair
  | .set _ => .set
  | .map _ => .map
  | .knot _ body => body.kind
  | .again _ kind => kind

/-- Values that count as present: not null, false, zero or empty. -/
def isTruthy : Datum → Bool
  | .scalar s => s.isTruthy
  | .list items => !items.isEmpty
  | .pair _ _ => true
  | .set members => !members.isEmpty
  | .map entries => !entries.isEmpty
  | .knot _ _ => true
  | .again _ _ => true

/-- The value, or the empty text for a value that does not count as present. -/
def orEmptyText (d : Datum) : Datum := if d.isTruthy then d else .text []

/-- The text that a value is. -/
def toText? : Datum → Option Text
  | .text t => some t
  | _ => none

/-! ## Collections that are a part of themselves -/

mutual

/-- The value with another in the places of the collection around it that has a label. -/
def fill (label : Nat) (whole : Datum) : Datum → Datum
  | .scalar s => .scalar s
  | .list items => .list (fillItems label whole items)
  | .pair first second => .pair (fill label whole first) (fill label whole second)
  | .set members => .set members
  | .map entries => .map (fillEntries label whole entries)
  | .knot l body => if l = label then .knot l body else .knot l (fill label whole body)
  | .again l kind => if l = label then whole else .again l kind

/-- The items of a list, each filled. -/
def fillItems (label : Nat) (whole : Datum) : List Datum → List Datum
  | [] => []
  | d :: rest => fill label whole d :: fillItems label whole rest

/-- The entries of a map, each filled. -/
def fillEntries (label : Nat) (whole : Datum) : List (Scalar × Datum) → List (Scalar × Datum)
  | [] => []
  | (k, v) :: rest => (k, fill label whole v) :: fillEntries label whole rest

end

/-- The value as a collection whose parts are whole values again. -/
def opened : Datum → Datum
  | .knot label body => fill label (.knot label body) body
  | d => d

/-- The value opened at every place that up to `n` steps lead to. -/
def unrolled : Nat → Datum → Datum
  | 0, d => d
  | n + 1, d =>
    match d.opened with
    | .list items => .list (items.map (unrolled n))
    | .map entries => .map (entries.map fun e ↦ (e.1, unrolled n e.2))
    | d => d

/-! ## Comparison -/

mutual

/-- The same value: kinds, values and the order of entries agree. -/
def same : Datum → Datum → Bool
  | .scalar a, .scalar b => a == b
  | .list a, .list b => sameItems a b
  | .pair a b, .pair c d => same a c && same b d
  | .set a, .set b => a == b
  | .map a, .map b => sameEntries a b
  | .knot l a, .knot m b => l == m && same a b
  | .again l j, .again m k => l == m && j == k
  | _, _ => false

/-- Two lists have the same values in the same places. -/
def sameItems : List Datum → List Datum → Bool
  | [], [] => true
  | a :: s, b :: t => same a b && sameItems s t
  | _, _ => false

/-- Two maps have the same entries in the same order. -/
def sameEntries : List (Scalar × Datum) → List (Scalar × Datum) → Bool
  | [], [] => true
  | (j, a) :: s, (k, b) :: t => j == k && same a b && sameEntries s t
  | _, _ => false

end

instance : BEq Datum := ⟨same⟩

end Datum

/-- The entries of a map under text keys, in their order. -/
abbrev Fields := List (Scalar × Datum)

namespace Fields

/-- The value of a text key. -/
def get? (fields : Fields) (key : Text) : Option Datum := fields.lookup (.text key)

/-- The value of a text key, or null. -/
def get (fields : Fields) (key : Text) : Datum := (fields.get? key).getD .null

/-- The entries whose keys are texts. -/
def texts (fields : Fields) : List (Text × Datum) :=
  fields.filterMap fun
    | (.text k, v) => some (k, v)
    | _ => none

end Fields

end ScriptDefs
