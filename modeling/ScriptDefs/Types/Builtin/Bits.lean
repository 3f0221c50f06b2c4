import ScriptDefs.Types.Builtin.Basic

/-!
# Built-in bit operations

The table of operations on the bits of numbers. Most have one overload for integers and another one for
integers and numbers.
-/

namespace ScriptDefs.Builtin

/-- An argument of a bit operation: its name and its descriptions in the two overloads. -/
abbrev BitArg := String × String × String

/-- An argument without descriptions. -/
def bare (name : String) : BitArg := (name, "", "")

/-- The overload for integers, then the one for integers and numbers. The marks are those of all
arguments and of the last one. -/
def bitPair (args : List BitArg) (variadic tailOptional : Bool) : List Signature :=
  let build (types : List BaseType) (desc : BitArg → String) : List Variable :=
    args.mapIdx fun i a ↦
      .mk (.text a.1) (.text (desc a)) types variadic (tailOptional && i + 1 == args.length)
  [sig [.integer] (build (simples [.integer]) (·.2.1)),
    sig [.number] (build (simples [.integer, .number]) (·.2.2))]

/-- Both overloads without marks. -/
def bitPlain (args : List BitArg) : List Signature := bitPair args false false

/-- A bit operation. -/
def bit : String → String → List Signature → Function :=
  linked "https://luau.org/library#bit32-library"

/-- The arguments of a shift. -/
def shiftArgs : List BitArg := [bare "n", bare "i"]

/-- The functions of the table. -/
def bitFunctions : List Function := [
  bit "arshift"
    ("Shifts `n` by `i` bits to the right (if `i` is negative, a left shift is performed " ++
      "instead).\nThe most significant bit of `n` is propagated during the shift.\nWhen `i` is larger " ++
      "than `31`, returns an integer with all bits set to the sign bit of `n`.\nWhen `i` is smaller " ++
      "than `-31`, `0` is returned")
    (bitPlain [("n", "number to be shifted", "number to be shifted"),
      ("i", "bits to shift by", "bits to shift by")]),
  bit "band"
    ("Performs a bitwise and of all input numbers and returns the result.\nIf the function is called " ++
      "with no arguments, an integer with all bits set to `1` is returned.")
    (bitPair [("args", "integers to and together", "numbers to and together")] true false),
  bit "bnot" "Returns a bitwise negation of the input number."
    (bitPlain [("n", "integers to not", "number to not")]),
  bit "bor"
    ("Performs a bitwise or of all input numbers and returns the result.\nIf the function is called " ++
      "with no arguments, `0` is returned.")
    (bitPair [("args", "integers to or together", "numbers to or together")] true false),
  bit "bxor"
    ("Performs a bitwise xor (exclusive or) of all input numbers and returns the result.\nIf the " ++
      "function is called with no arguments, `0` is returned.")
    (bitPair [("args", "integers to xor together", "numbers to xor together")] true false),
  bit "btest"
    ("Perform a bitwise and of all input numbers, and return `true` if the result is not `0`.\nIf the " ++
      "function is called with no arguments, `true` is returned.")
    [sig [.boolean] [.mk (.text "args") (.text "values to test together")
      (simples [.integer, .number]) true false]],
  bit "extract"
    ("Extracts bits of `n` at position `f` with `a` width of `w`, and returns the resulting " ++
      "integer.\n`w` defaults to 1, so a two-argument version of extract returns the bit value at " ++
      "position `f`.\nBits are indexed starting at `0`.\nErrors if `f` and `f+w-1` are not between " ++
      "`0` and `31`.")
    (bitPlain [bare "n", bare "f", bare "w"]),
  bit "lrotate"
    ("Rotates `n` to the left by `i` bits (if `i` is negative, a right rotate is performed " ++
      "instead)\nThe bits that are shifted past the bit width are shifted back from the right.")
    (bitPlain shiftArgs),
  bit "lshift"
    ("Shifts `n` to the left by `i` bits (if `i` is negative, a right shift is performed " ++
      "instead).\nWhen `i` is outside of `[-31..31]` range, returns `0`.")
    (bitPlain shiftArgs),
  bit "replace"
    ("Replaces bits of `n` at position `f` and width `w` with `r`, and returns the resulting " ++
      "integer.\n`w` defaults to `1`, so a three-argument version of replace changes one bit at position " ++
      "`f` to `r` (which should be `0` or `1`) and returns the result.\nBits are indexed starting at " ++
      "`0`.\nErrors if `f` and `f+w-1` are not between `0` and `31`.")
    (bitPair [bare "n", bare "r", bare "f", bare "w"] false true),
  bit "rrotate"
    ("Rotates `n` to the right by `i` bits (if `i` is negative, a left rotate is performed " ++
      "instead)\nThe bits that are shifted past the bit width are shifted back from the left.")
    (bitPlain shiftArgs),
  bit "rshift"
    ("Shifts `n` to the right by `i` bits (if `i` is negative, a left shift is performed " ++
      "instead).\nWhen `i` is outside of `[-31..31]` range, returns `0`.")
    (bitPlain shiftArgs),
  bit "countlz"
    ("Returns the number of consecutive zero bits in the 32-bit representation of `n` starting from " ++
      "the left-most (most significant) bit.\nReturns `32` if `n` is `0`.")
    (bitPlain [bare "n"]),
  bit "countrz"
    ("Returns the number of consecutive zero bits in the 32-bit representation of `n` starting from " ++
      "the right-most (least significant) bit.\nReturns `32` if `n` is `0`.")
    (bitPlain [bare "n"]),
  bit "byteswap" "Returns n with the order of the bytes swapped." (bitPlain [bare "n"])]

/-- The table of bit operations. -/
def bits : Text × Table := table "bit32" [] bitFunctions

end ScriptDefs.Builtin
