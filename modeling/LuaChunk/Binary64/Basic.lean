/-!
# Binary64/Basic — number constants as 64-bit patterns

A number constant is kept as the pattern a chunk holds, so that nothing about it is lost, the
payload of a NaN included.  The finite patterns are the multiples of the **quantum** `2⁻¹⁰⁷⁴` that
`quanta` counts; what is asked of a number is answered in whole quanta.
-/

namespace LuaChunk

/-- A floating-point pattern: a sign, eleven bits of exponent, 52 bits of fraction. -/
structure Binary64 where
  bits : UInt64
  deriving DecidableEq, Repr, Inhabited

namespace Binary64

/-- The sign bit. -/
def negative (x : Binary64) : Bool := 0x8000000000000000 ≤ x.bits.toNat

/-- The exponent field. -/
def exponent (x : Binary64) : Nat := x.bits.toNat / 0x10000000000000 % 2048

/-- The fraction field. -/
def fraction (x : Binary64) : Nat := x.bits.toNat % 0x10000000000000

def isFinite (x : Binary64) : Bool := x.exponent != 2047

def isNaN (x : Binary64) : Bool := x.exponent == 2047 && x.fraction != 0

def isZero (x : Binary64) : Bool := x.exponent == 0 && x.fraction == 0

/-- The significand of a finite number, its leading bit included. -/
def significand (x : Binary64) : Nat :=
  if x.exponent = 0 then x.fraction else 0x10000000000000 + x.fraction

/-- The power of two, in quanta, that the significand counts. -/
def scale (x : Binary64) : Nat := x.exponent - 1

/-- The magnitude of a finite number in quanta of `2⁻¹⁰⁷⁴`. -/
def quanta (x : Binary64) : Nat := x.significand <<< x.scale

/-- The number with the other sign. -/
def negate (x : Binary64) : Binary64 := ⟨x.bits ^^^ 0x8000000000000000⟩

/-- A finite number without its places after the point. -/
def truncate (x : Binary64) : Int :=
  if x.negative then -((x.quanta >>> 1074 : Nat) : Int) else ((x.quanta >>> 1074 : Nat) : Int)

/-- The signed word of 64 bits that a number is converted to: what stands before its point, or the
last word on its side if that is beyond the words, as it is for an infinity.  A NaN becomes zero. -/
def toSignedWord (x : Binary64) : Int :=
  if x.isNaN then 0 else max (-0x8000000000000000) (min 0x7FFFFFFFFFFFFFFF x.truncate)

/-- Equality as numbers: a NaN equals nothing, and the two zeros are equal. -/
def equals (x y : Binary64) : Bool :=
  !x.isNaN && !y.isNaN && (x.bits == y.bits || x.isZero && y.isZero)

/-- Whether `coefficient · 10 ^ power` is too large to be rounded to a finite number: the largest
one has 53 leading ones, and from half a step above it on nothing rounds down to it.  Only decimals
of about its own length need the comparison. -/
def overflows (coefficient : Nat) (power : Int) : Bool :=
  let point : Int := power + ((Nat.toDigits 10 coefficient).length : Int)
  if coefficient = 0 || point < 300 then false
  else if 310 < point then true
  else
    (0x3FFFFFFFFFFFFF <<< 970) * Nat.pow 10 (-power).toNat ≤ coefficient * Nat.pow 10 power.toNat

end Binary64

end LuaChunk
