/-!
# Overrun — quantities that a machine word cannot hold

Positions, depths and widths are words of 64 bits.  What is computed from them is exact or it is
refused: an **overrun** says which step went beyond a word.  `signedWord` reads the upper half of
the words as negative numbers, and `signedWord_of_lt` says that it leaves the lower half alone.
-/

namespace LuaChunk

/-- What went beyond a word. -/
inductive Overrun where
  | sum
  | product
  /-- More room than an address can span. -/
  | room
  deriving DecidableEq, Repr

namespace Overrun

def message : Overrun → String
  | .sum => "attempt to add with overflow"
  | .product => "attempt to multiply with overflow"
  | .room => "capacity overflow"

end Overrun

/-- The number of words. -/
def wordCount : Nat := 18446744073709551616

/-- The number of signed words that are not negative. -/
def signedCount : Nat := 9223372036854775808

/-- A word read as a signed one. -/
def signedWord (n : Nat) : Int :=
  if n < signedCount then (n : Int) else (n : Int) - (wordCount : Int)

/-- Whether a number is a signed word. -/
def isSignedWord (i : Int) : Bool := -(signedCount : Int) ≤ i && i < (signedCount : Int)

/-- The number after `n`, if it is a word. -/
def successor (n : Nat) : Except Overrun Nat :=
  if n + 1 < wordCount then .ok (n + 1) else .error .sum

/-- The size of `count` blocks of the same size, if there is room for them. -/
def roomFor (count size : Nat) : Except Overrun Nat :=
  if wordCount ≤ count * size then .error .product
  else if signedCount ≤ count * size then .error .room
  else .ok (count * size)

theorem signedWord_of_lt {n : Nat} (h : n < signedCount) : signedWord n = n := if_pos h

theorem successor_of_lt {n : Nat} (h : n + 1 < wordCount) : successor n = .ok (n + 1) := if_pos h

/-- **Blocks that an address can span are never refused.** -/
theorem roomFor_of_lt {count size : Nat} (h : count * size < signedCount) :
    roomFor count size = .ok (count * size) := by
  have hw : ¬ wordCount ≤ count * size := by
    simp only [signedCount, wordCount] at h ⊢
    omega
  have hs : ¬ signedCount ≤ count * size := Nat.not_le.mpr h
  rw [roomFor, if_neg hw, if_neg hs]

end LuaChunk
