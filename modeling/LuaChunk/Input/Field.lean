import LuaChunk.Binary64.Basic
import LuaChunk.Input.Reader

/-!
# Input/Field — the fields that chunk files are made of

Bytes, words of four bytes, numbers of eight, strings and tables.  A string is its length, counting
a final NUL, and then its bytes; the NULs at its end are no part of the text, however many there
are.  A table is the number of its entries and then the entries.
-/

namespace LuaChunk.Reader

variable {α : Type}

/-- A byte. -/
def byte (field : String) : Reader UInt8 := do
  return (← take 1 field).headD 0

/-- A number of `width` bytes in the order of the cursor. -/
def natural (width : Nat) (field : String) : Reader Nat := do
  let bytes ← take width field
  return (← cursor).order.value bytes

/-- An unsigned word. -/
def uint32 (field : String) : Reader UInt32 := do
  return UInt32.ofNat (← natural 4 field)

/-- A signed word. -/
def int32 (field : String) : Reader Int32 := do
  return (← uint32 field).toInt32

/-- A floating-point number. -/
def binary64 (field : String) : Reader Binary64 := do
  return ⟨UInt64.ofNat (← natural 8 field)⟩

/-- Bytes without the NULs at their end. -/
def trimNul (bytes : List UInt8) : List UInt8 := (bytes.reverse.dropWhile (· == 0)).reverse

/-- Bytes as text in the character set of the cursor, with a report if they are malformed. -/
def text (bytes : List UInt8) : Reader String := do
  let charset := (← cursor).charset
  reportIf (charset.malformed bytes) (.undecodable charset bytes)
  return charset.decode bytes

/-- A string. -/
def string (field : String) : Reader String := do
  let offset := (← cursor).position
  let length := (← int32 field).toInt
  if length < 0 then fail (.malformedLength field offset length)
  else if length = 0 then fail (.malformedString field offset .noRoom)
  else do
    let bytes ← take length.toNat field
    let last := (← cursor).position - 1
    if bytes.getLastD 0 != 0 then fail (.malformedString field last .noTerminator)
    else text (trimNul bytes.dropLast)

/-- The number of entries of a table. -/
def count (field : String) : Reader Nat := do
  let offset := (← cursor).position
  let n := (← int32 field).toInt
  if n < 0 then fail (.malformedLength field offset n) else pure n.toNat

/-- The entries of a table from index `i` on. -/
def entries (entry : Reader α) (i : Nat) : Nat → Reader (List α)
  | 0 => pure []
  | n + 1 => do
    let a ← within (Path.index i) entry
    return a :: (← entries entry (i + 1) n)

/-- A table.  Only a fault in an entry carries the table's name here; a fault in the number of
entries names it already. -/
def table (field : String) (entry : Reader α) : Reader (List α) := do
  let n ← count field
  within field (entries entry 0 n)

end LuaChunk.Reader
