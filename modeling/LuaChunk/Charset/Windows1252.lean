import LuaChunk.Charset.Machine

/-!
# Charset/Windows1252 — the single-byte western set

Every byte is a character: its own code point, except in `0x80 … 0x9F`, where 27 of the 32 bytes
are printing characters.
-/

namespace LuaChunk.Charset.Windows1252

/-- The code points of the bytes `0x80 … 0x9F`. -/
def high : Array Nat :=
  #[0x20AC, 0x0081, 0x201A, 0x0192, 0x201E, 0x2026, 0x2020, 0x2021,
    0x02C6, 0x2030, 0x0160, 0x2039, 0x0152, 0x008D, 0x017D, 0x008F,
    0x0090, 0x2018, 0x2019, 0x201C, 0x201D, 0x2022, 0x2013, 0x2014,
    0x02DC, 0x2122, 0x0161, 0x203A, 0x0153, 0x009D, 0x017E, 0x0178]

/-- The character of a byte. -/
def character (byte : UInt8) : Char :=
  Char.ofNat (if 0x80 ≤ byte ∧ byte < 0xA0 then high[byte.toNat - 0x80]?.getD 0 else byte.toNat)

/-- The decoder, which owes nothing. -/
def machine : Machine Unit := ⟨(), fun _ byte => ([some (character byte)], ()), fun _ => []⟩

end LuaChunk.Charset.Windows1252
