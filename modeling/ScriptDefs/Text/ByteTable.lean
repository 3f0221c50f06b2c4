import ScriptDefs.Text.Basic

/-!
# Tables of single bytes

An encoding with one byte for each character is a table of the characters from 0x80 up. The bytes below are
ASCII characters.
-/

namespace ScriptDefs

/-- The characters of bytes. -/
structure ByteTable where
  /-- The characters of the bytes from 0x80 on; the replacement character where there is none. -/
  high : String := ""
  /-- ASCII characters that are none. -/
  missing : List Char := []
  deriving DecidableEq, Repr

namespace ByteTable

/-- Stands in tables where a byte has no character. -/
def gap : Char := '\uFFFD'

/-- The code point of a byte, given the list of the characters from 0x80 on. -/
def codePoint? (table : ByteTable) (high : Array Char) (b : UInt8) : Option Nat :=
  if b < 0x80 then
    if table.missing.contains (Char.ofNat b.toNat) then none else some b.toNat
  else
    match high[b.toNat - 0x80]? with
    | some c => if c = gap then none else some c.toNat
    | none => none

/-- Bytes below 0x80 only. -/
def ascii : ByteTable := {}

/-- ASCII without the tilde, which begins an escape. -/
def asciiWithoutTilde : ByteTable where
  missing := ['~']

/-- Every byte is the code point with its number. -/
def identity : ByteTable where
  high := String.ofList ((List.range 0x80).map fun n ↦ Char.ofNat (0x80 + n))

end ByteTable

end ScriptDefs
