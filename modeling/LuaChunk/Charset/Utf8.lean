import LuaChunk.Charset.Machine

/-!
# Charset/Utf8 — UTF-8 with one malformed symbol per maximal broken prefix

A lead byte fixes how many continuation bytes follow and, so that no character has two spellings
and none is a surrogate, the range of the first of them.  A byte outside the range ends the
sequence: what was read of it is malformed, and the byte is read afresh.
-/

namespace LuaChunk.Charset.Utf8

/-- Between characters, or inside one. -/
inductive State where
  | between
  /-- `owed + 1` more bytes, the next in `low … high`, on top of the bits `value`. -/
  | inside (owed : Nat) (low high : UInt8) (value : Nat)
  deriving DecidableEq, Repr

/-- A byte between characters. -/
def lead (byte : UInt8) : List Symbol × State :=
  if byte < 0x80 then ([ascii byte], .between)
  else if byte < 0xC2 then ([none], .between)
  else if byte < 0xE0 then ([], .inside 0 0x80 0xBF (byte.toNat - 0xC0))
  else if byte < 0xF0 then
    ([], .inside 1 (if byte = 0xE0 then 0xA0 else 0x80) (if byte = 0xED then 0x9F else 0xBF)
      (byte.toNat - 0xE0))
  else if byte < 0xF5 then
    ([], .inside 2 (if byte = 0xF0 then 0x90 else 0x80) (if byte = 0xF4 then 0x8F else 0xBF)
      (byte.toNat - 0xF0))
  else ([none], .between)

/-- One byte more. -/
def step : State → UInt8 → List Symbol × State
  | .between, byte => lead byte
  | .inside owed low high value, byte =>
    if low ≤ byte ∧ byte ≤ high then
      match owed with
      | 0 => ([some (Char.ofNat (value * 64 + (byte.toNat - 0x80)))], .between)
      | owed + 1 => ([], .inside owed 0x80 0xBF (value * 64 + (byte.toNat - 0x80)))
    else (none :: (lead byte).1, (lead byte).2)

/-- A sequence cut off by the end is malformed. -/
def finish : State → List Symbol
  | .between => []
  | .inside .. => [none]

/-- The UTF-8 decoder. -/
def machine : Machine State := ⟨.between, step, finish⟩

end LuaChunk.Charset.Utf8
