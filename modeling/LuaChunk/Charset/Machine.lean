/-!
# Charset/Machine — decoders that read one byte at a time

Every character set is decoded by a machine that takes the bytes in order and, after each, gives
out the symbols that are settled.  A symbol is a character, or `none` where the bytes name no
character.  A machine never looks back and never looks ahead: what it still owes is its state, and
`finish` settles it at the end of the bytes.
-/

namespace LuaChunk.Charset

/-- A character, or `none` for a malformed sequence of bytes. -/
abbrev Symbol := Option Char

/-- A decoder with states `σ`. -/
structure Machine (σ : Type) where
  /-- Nothing owed. -/
  start : σ
  /-- The symbols settled by one more byte, and what is owed after it. -/
  step : σ → UInt8 → List Symbol × σ
  /-- The symbols owed at the end of the bytes. -/
  finish : σ → List Symbol

namespace Machine

variable {σ : Type}

/-- The symbols of the bytes, read from a given state. -/
def run (m : Machine σ) (state : σ) : List UInt8 → List Symbol
  | [] => m.finish state
  | byte :: bytes => (m.step state byte).1 ++ m.run (m.step state byte).2 bytes

/-- The symbols of the bytes. -/
def decode (m : Machine σ) (bytes : List UInt8) : List Symbol := m.run m.start bytes

end Machine

/-- The character of a byte below 128. -/
def ascii (byte : UInt8) : Symbol := some (Char.ofNat byte.toNat)

/-- The code point at a position of a table that packs sixteen of them into a number. -/
def codePointAt (table : Array Nat) (pointer : Nat) : Nat :=
  (table[pointer / 16]?.getD 0) >>> (16 * (15 - pointer % 16)) % 65536

end LuaChunk.Charset
