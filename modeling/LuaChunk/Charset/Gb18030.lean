import LuaChunk.Charset.Machine
import LuaChunk.Charset.Table.Gb18030

/-!
# Charset/Gb18030 — GB 18030, which contains GBK

Characters take one, two or four bytes.  The second byte decides: a digit starts a four-byte
sequence, anything else ends a pair.  A four-byte sequence that breaks off is malformed in its
first byte only; the bytes after it are read afresh.
-/

namespace LuaChunk.Charset.Gb18030

/-- The bytes read of the current character. -/
inductive State where
  | between
  | one (first : UInt8)
  | two (first second : UInt8)
  | three (first second third : UInt8)
  deriving DecidableEq, Repr

/-- The character of a pair of bytes. -/
def pair? (first second : UInt8) : Symbol :=
  if (0x40 ≤ second ∧ second ≤ 0x7E) ∨ (0x80 ≤ second ∧ second ≤ 0xFE) then
    some (Char.ofNat (codePointAt twoByte ((first.toNat - 0x81) * 190
      + (second.toNat - if second < 0x7F then 0x40 else 0x41))))
  else none

/-- The start of the last run at or below a four-byte number. -/
def runOf (pointer : Nat) : Nat × Nat :=
  ranges.foldl (fun found run => if run.1 ≤ pointer then run else found) (0, 0x80)

/-- The character of a four-byte number. -/
def quad? (pointer : Nat) : Symbol :=
  if pointer ≤ 39419 then
    some (Char.ofNat ((runOf pointer).2 + (pointer - (runOf pointer).1)))
  else if 189000 ≤ pointer ∧ pointer ≤ 1237575 then
    some (Char.ofNat (0x10000 + (pointer - 189000)))
  else none

/-- The number of four bytes. -/
def number (first second third fourth : UInt8) : Nat :=
  (first.toNat - 0x81) * 12600 + (second.toNat - 0x30) * 1260
    + (third.toNat - 0x81) * 10 + (fourth.toNat - 0x30)

/-- A byte between characters. -/
def stepBetween (byte : UInt8) : List Symbol × State :=
  if byte < 0x80 then ([ascii byte], .between)
  else if byte = 0x80 then ([some '€'], .between)
  else if byte = 0xFF then ([none], .between)
  else ([], .one byte)

/-- A byte after a first one. -/
def stepOne (first byte : UInt8) : List Symbol × State :=
  if 0x30 ≤ byte ∧ byte ≤ 0x39 then ([], .two first byte)
  else match pair? first byte with
    | some c => ([some c], .between)
    | none => (if byte < 0x80 then [none, ascii byte] else [none], .between)

/-- One byte more. -/
def step : State → UInt8 → List Symbol × State
  | .between, byte => stepBetween byte
  | .one first, byte => stepOne first byte
  | .two first second, byte =>
    if 0x81 ≤ byte ∧ byte ≤ 0xFE then ([], .three first second byte)
    else (none :: ascii second :: (stepBetween byte).1, (stepBetween byte).2)
  | .three first second third, byte =>
    if 0x30 ≤ byte ∧ byte ≤ 0x39 then ([quad? (number first second third byte)], .between)
    else (none :: ascii second :: (stepOne third byte).1, (stepOne third byte).2)

/-- A character cut off by the end is malformed, once. -/
def finish : State → List Symbol
  | .between => []
  | _ => [none]

/-- The GB 18030 decoder. -/
def machine : Machine State := ⟨.between, step, finish⟩

end LuaChunk.Charset.Gb18030
