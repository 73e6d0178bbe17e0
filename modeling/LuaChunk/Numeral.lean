/-!
# Numeral — the texts of whole numbers

Messages and listings write numbers in decimal, in upper-case hexadecimal, and in either of them
filled up on the left to a least width.  A numeral never loses digits: `length_fill` says that a
width is only ever a lower bound.
-/

namespace LuaChunk

/-- `s` filled up on the left with `c` to at least `width` characters. -/
def fill (c : Char) (width : Nat) (s : String) : String :=
  String.ofList (List.replicate (width - s.length) c) ++ s

/-- `s` filled up on the right with spaces to at least `width` characters. -/
def column (width : Nat) (s : String) : String :=
  s ++ String.ofList (List.replicate (width - s.length) ' ')

/-- A natural number in decimal. -/
def decimal (n : Nat) : String := String.ofList (Nat.toDigits 10 n)

/-- An integer in decimal, with a sign only when it is negative. -/
def integer (i : Int) : String := if i < 0 then "-" ++ decimal i.natAbs else decimal i.natAbs

/-- A natural number in upper-case hexadecimal. -/
def hexadecimal (n : Nat) : String := String.ofList ((Nat.toDigits 16 n).map Char.toUpper)

/-- `0x` and at least `width` hexadecimal digits. -/
def hexWord (width n : Nat) : String := "0x" ++ fill '0' width (hexadecimal n)

/-- A list of bytes as two-digit hexadecimal numerals in brackets. -/
def hexBytes (bytes : List UInt8) : String :=
  "[" ++ ", ".intercalate (bytes.map fun b => fill '0' 2 (hexadecimal b.toNat)) ++ "]"

/-- A truth value in words. -/
def truth (b : Bool) : String := if b then "true" else "false"

theorem length_fill (c : Char) (width : Nat) (s : String) :
    (fill c width s).length = max width s.length := by
  simp only [fill, String.length_append, String.length_ofList, List.length_replicate]
  omega

end LuaChunk
