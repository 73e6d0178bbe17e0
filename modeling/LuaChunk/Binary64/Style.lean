import LuaChunk.Binary64.Shortest
import LuaChunk.Numeral

/-!
# Binary64/Style — number texts

All texts of a number have the same digits; they differ in when the point is moved by an exponent,
in what a whole number ends in, and in the words for what is no finite number.  Such a set of
decisions is a `NumberStyle`; each output chooses one.

A decimal with digits `d₁ … dₙ` is read as `0.d₁ … dₙ · 10ᵖ`, and `p` is its **point**.
-/

namespace LuaChunk

/-- The decisions of a way of writing numbers. -/
structure NumberStyle where
  /-- The choice between digits that are equally near. -/
  tie : Tie
  /-- Whether a decimal with this point is written without an exponent. -/
  positional : Int → Bool
  /-- What follows a whole number. -/
  whole : String
  /-- The text of a NaN. -/
  nan : String
  /-- The text of infinity. -/
  infinity : String

namespace Decimal

/-- The digits of a decimal. -/
def digits (d : Decimal) : List Char := Nat.toDigits 10 d.coefficient

/-- Where the point of a decimal stands: after this many digits. -/
def point (d : Decimal) : Int := d.power + d.digits.length

/-- Writes a decimal without an exponent. -/
def positional (d : Decimal) (whole : String) : String :=
  if d.point ≤ 0 then
    String.ofList ('0' :: '.' :: List.replicate d.point.natAbs '0' ++ d.digits)
  else if (d.digits.length : Int) ≤ d.point then
    String.ofList (d.digits ++ List.replicate d.power.toNat '0') ++ whole
  else
    String.ofList (d.digits.take d.point.toNat ++ '.' :: d.digits.drop d.point.toNat)

/-- Writes a decimal with one digit before the point and an exponent. -/
def scientific (d : Decimal) : String :=
  String.ofList (d.digits.take 1)
    ++ (if d.digits.length = 1 then "" else String.ofList ('.' :: d.digits.drop 1))
    ++ "e" ++ integer (d.point - 1)

/-- Writes a decimal. -/
def render (d : Decimal) (style : NumberStyle) : String :=
  if style.positional d.point then d.positional style.whole else d.scientific

end Decimal

namespace Binary64

/-- Writes a number.  A NaN has no sign. -/
def render (x : Binary64) (style : NumberStyle) : String :=
  if x.isNaN then style.nan
  else (if x.negative then "-" else "") ++
    if !x.isFinite then style.infinity
    else if x.isZero then "0" ++ style.whole
    else (x.shortest style.tie).render style

end Binary64

end LuaChunk
