import ScriptDefs.Catalogue.Basic

/-!
# Descriptions of types

Indented keyword documents say nothing of types; their descriptions are always these.
-/

namespace ScriptDefs.Keywords

/-- The types with their descriptions. -/
def typeDescriptions : List (Text × Text) :=
  [
    ("float",
      ("32 bit floating point value.\nThe range is 1.175494351E-38 to " : Text) ++
        "3.402823466E+38."),
    ("integer",
      ("32 bit integer value.\n−2,147,483,648 and +2,147,483,647 (that is " : Text) ++
        "0x80000000 to 0x7FFFFFFF in hex)."),
    ("key",
      ("A 128 bit unique identifier (UUID).\nThe key is represented as " : Text) ++
        "hexidecimal characters (A-F and 0-9), grouped into sections " ++
        "(8,4,4,4,12 characters) and separated by hyphens (for a total of 36 " ++
        "characters). e.g. \"A822FF2B-FF02-461D-B45D-DCD10A2DE0C2\"."),
    ("list",
      ("A collection of other data types.\nLists are signified by square " : Text) ++
        "brackets surrounding their elements; the elements inside are separated " ++
        "by commas. e.g. [0, 1, 2, 3, 4] or [\"Yes\", \"No\", \"Perhaps\"]."),
    ("quaternion",
      ("The quaternion type is a left over from way back when LSL was created. " : Text) ++
        "It was later renamed to <rotation> to make it more user friendly, but " ++
        "it appears someone forgot to remove it ;-)"),
    ("rotation",
      ("The rotation type is one of several ways to represent an orientation " : Text) ++
        "in 3D.\nIt is a mathematical object called a quaternion. You can think " ++
        "of a quaternion as four numbers (x, y, z, w), three of which represent " ++
        "the direction an object is facing and a fourth that represents the " ++
        "object's banking left or right around that direction."),
    ("string",
      ("Text data.\nThe editor accepts UTF-8 encoded text." : Text)),
    ("vector",
      ("A vector is a data type that contains a set of three float " : Text) ++
        "values.\nVectors are used to represent colors (RGB), positions, and " ++
        "directions/velocities.")
  ]

/-- The types of a catalogue that is read from an indented document. -/
def describedTypes : Assoc Text Catalogue.TypeNote :=
  typeDescriptions.map fun e ↦ (e.1, { name := e.1, desc := .text e.2 })

end ScriptDefs.Keywords
