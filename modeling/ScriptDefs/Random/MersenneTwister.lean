import ScriptDefs.Random.Sha512

/-!
# Pseudo-random numbers

The generator MT19937 on 32-bit words, seeded with a text: the same text always gives the same numbers.
-/

namespace ScriptDefs

/-- The state of the generator: its words and how many of them have been drawn. -/
structure MersenneTwister where
  words : Array UInt32
  drawn : Nat
  deriving Repr

namespace MersenneTwister

/-- The number of words of a state. -/
def size : Nat := 624

/-- A word mixed with its shifted self, as all seeding steps do. -/
def mixed (x : UInt32) : UInt32 := x ^^^ (x >>> 30)

/-- The words that follow from a single number. -/
def ofNumber (seed : UInt32) : Array UInt32 :=
  ((List.range size).drop 1).foldl
    (fun words i ↦ words.push (1812433253 * mixed (words.getD (i - 1) 0) + UInt32.ofNat i)) #[seed]

/-- A place among the words after the first one, from a running count. -/
def place (step : Nat) : Nat := step % (size - 1) + 1

/-- A word put at a place; the last word is also the first one from then on. -/
def store (words : Array UInt32) (i : Nat) (x : UInt32) : Array UInt32 :=
  let words := words.setIfInBounds i x
  if i + 1 = size then words.setIfInBounds 0 x else words

/-- The words that follow from a key of words. -/
def ofKey (key : Array UInt32) : Array UInt32 :=
  let count := max size key.size
  let first := (List.range count).foldl
    (fun words step ↦
      let i := place step
      let j := step % key.size
      store words i
        ((words.getD i 0 ^^^ (mixed (words.getD (i - 1) 0) * 1664525)) + key.getD j 0 +
          UInt32.ofNat j))
    (ofNumber 19650218)
  let second := (List.range (size - 1)).foldl
    (fun words step ↦
      let i := place (count + step)
      store words i
        ((words.getD i 0 ^^^ (mixed (words.getD (i - 1) 0) * 1566083941)) - UInt32.ofNat i))
    first
  second.setIfInBounds 0 0x80000000

/-- The next generation of words. -/
def twist (words : Array UInt32) : Array UInt32 :=
  (List.range size).foldl
    (fun words i ↦
      let y := (words.getD i 0 &&& 0x80000000) |||
        (words.getD ((i + 1) % size) 0 &&& 0x7fffffff)
      let odd : UInt32 := if y &&& 1 = 0 then 0 else 0x9908b0df
      words.setIfInBounds i (words.getD ((i + 397) % size) 0 ^^^ (y >>> 1) ^^^ odd))
    words

/-- A word as it is given out. -/
def tempered (x : UInt32) : UInt32 :=
  let x := x ^^^ (x >>> 11)
  let x := x ^^^ ((x <<< 7) &&& 0x9d2c5680)
  let x := x ^^^ ((x <<< 15) &&& 0xefc60000)
  x ^^^ (x >>> 18)

/-- The next 32 random bits. -/
def next (g : MersenneTwister) : UInt32 × MersenneTwister :=
  let g := if g.drawn < size then g else ⟨twist g.words, 0⟩
  (tempered (g.words.getD g.drawn 0), ⟨g.words, g.drawn + 1⟩)

/-- A number below sixteen from the five highest bits of the next word; larger ones are passed over,
at most `fuel` of them. -/
def belowSixteenFrom : Nat → MersenneTwister → Nat × MersenneTwister
  | 0, g => (0, g)
  | fuel + 1, g =>
    let (word, g') := g.next
    let n := (word >>> 27).toNat
    if n < 16 then (n, g') else belowSixteenFrom fuel g'

/-- A number below sixteen. Long before the bound is used up, half of all words are small enough. -/
def belowSixteen (g : MersenneTwister) : Nat × MersenneTwister := belowSixteenFrom 20000 g

/-- The 32-bit words of a number, the least significant first, at most `fuel` of them. -/
def wordsOf : Nat → Nat → List UInt32
  | 0, _ => []
  | fuel + 1, n => if n = 0 then [] else UInt32.ofNat n :: wordsOf fuel (n / Nat.pow 2 32)

/-- The generator seeded with bytes: the bytes and their hash, as one number, make up the key. -/
def ofBytes (seed : List UInt8) : MersenneTwister :=
  let bytes := seed ++ Sha512.hash seed
  ⟨ofKey (wordsOf bytes.length (Sha512.bigEndian bytes)).toArray, size⟩

end MersenneTwister

end ScriptDefs
