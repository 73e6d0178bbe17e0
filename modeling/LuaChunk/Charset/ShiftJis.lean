import LuaChunk.Charset.Machine
import LuaChunk.Charset.Table.Jis0208

/-!
# Charset/ShiftJis — Shift JIS with vendor extensions and user-defined characters

Bytes below `0x81` stand for themselves, bytes `0xA1 … 0xDF` for half-width katakana, and the other
bytes up to `0xFC` lead a pair.  Ten lead bytes are for the user and map onto the private-use area;
the rest are looked up.
-/

namespace LuaChunk.Charset.ShiftJis

/-- Between characters, or after a lead byte. -/
inductive State where
  | between
  | after (lead : UInt8)
  deriving DecidableEq, Repr

/-- The number of a pair, if its second byte can end one. -/
def pointer? (lead trail : UInt8) : Option Nat :=
  if (0x40 ≤ trail ∧ trail ≤ 0x7E) ∨ (0x80 ≤ trail ∧ trail ≤ 0xFC) then
    some ((lead.toNat - if lead < 0xA0 then 0x81 else 0xC1) * 188
      + (trail.toNat - if trail < 0x7F then 0x40 else 0x41))
  else none

/-- The code point of a numbered pair; zero where none is assigned. -/
def codePoint (pointer : Nat) : Nat :=
  if pointer < 8836 then codePointAt Jis0208.standard pointer
  else if pointer < 10716 then 0xE000 + (pointer - 8836)
  else codePointAt Jis0208.extension (pointer - 10716)

/-- The character of a pair of bytes. -/
def character? (lead trail : UInt8) : Symbol :=
  match pointer? lead trail with
  | none => none
  | some p => if codePoint p = 0 then none else some (Char.ofNat (codePoint p))

/-- One byte more.  A pair that names no character keeps its second byte for itself if that byte
is ASCII, and swallows it otherwise. -/
def step : State → UInt8 → List Symbol × State
  | .between, byte =>
    if byte ≤ 0x80 then ([ascii byte], .between)
    else if 0xA1 ≤ byte ∧ byte ≤ 0xDF then
      ([some (Char.ofNat (0xFF61 + (byte.toNat - 0xA1)))], .between)
    else if byte = 0xA0 ∨ 0xFC < byte then ([none], .between)
    else ([], .after byte)
  | .after lead, byte =>
    match character? lead byte with
    | some c => ([some c], .between)
    | none => (if byte < 0x80 then [none, ascii byte] else [none], .between)

/-- A lead byte at the end is malformed. -/
def finish : State → List Symbol
  | .between => []
  | .after _ => [none]

/-- The Shift JIS decoder. -/
def machine : Machine State := ⟨.between, step, finish⟩

end LuaChunk.Charset.ShiftJis
