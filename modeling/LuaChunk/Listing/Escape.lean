import LuaChunk.Numeral

/-!
# Listing/Escape — text on one line of a listing

A listing shows a string between double quotes or brackets and on one line.  Backslashes and double
quotes are escaped, the common control characters have a letter, and the others three decimal
digits.  Everything else, letters of any script included, stands for itself.
-/

namespace LuaChunk

/-- The control characters. -/
def isControl (c : Char) : Bool := c.toNat < 0x20 || (0x7F ≤ c.toNat && c.toNat < 0xA0)

/-- A control character as a backslash and three digits. -/
def escapeCode (c : Char) : List Char :=
  '\\' :: (fill '0' 3 (decimal c.toNat)).toList

/-- A character as a listing shows it. -/
def escapeChar (c : Char) : List Char :=
  if c = '\\' then ['\\', '\\']
  else if c = '"' then ['\\', '"']
  else if c = '\n' then ['\\', 'n']
  else if c = '\r' then ['\\', 'r']
  else if c = '\t' then ['\\', 't']
  else if isControl c then escapeCode c
  else [c]

/-- A text as a listing shows it. -/
def escape (s : String) : String := String.ofList (s.toList.flatMap escapeChar)

end LuaChunk
