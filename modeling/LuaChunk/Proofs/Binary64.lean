import LuaChunk.Binary64.Basic
import Mathlib.Algebra.Order.Floor.Semifield
import Mathlib.Data.Rat.Floor
import Mathlib.Tactic.FieldSimp
import Mathlib.Tactic.Ring

/-!
# Proofs/Binary64 — the numbers that patterns denote

`value?` reads the three fields of a pattern the standard way, as a rational number.  The library
itself never forms that number: it counts quanta and shifts the count (`magnitude_eq`).  So what it
makes of a number as a signed word is the number's floor, as long as there is room for it
(`toSignedWord_eq_iff`).
-/

namespace LuaChunk.Binary64

/-- The magnitude that the exponent and the fraction of a finite pattern denote.  Without an
exponent there is no leading one. -/
def magnitude (x : Binary64) : ℚ :=
  if x.exponent = 0 then x.fraction / 2 ^ 52 * 2 ^ (-1022 : ℤ)
  else (1 + x.fraction / 2 ^ 52) * 2 ^ ((x.exponent : ℤ) - 1023)

/-- **The number that a pattern denotes.**  Infinities and NaNs denote none. -/
def value? (x : Binary64) : Option ℚ :=
  if x.exponent = 2047 then none
  else some (if x.negative then -x.magnitude else x.magnitude)

theorem value?_eq_some_iff {x : Binary64} {q : ℚ} :
    x.value? = some q
      ↔ x.isFinite = true ∧ q = if x.negative then -x.magnitude else x.magnitude := by
  have hfinite : x.isFinite = true ↔ ¬ x.exponent = 2047 := bne_iff_ne
  rw [hfinite, value?]
  split
  next h => exact ⟨nofun, fun hq => absurd h hq.1⟩
  next h => exact ⟨fun hq => ⟨h, (Option.some.inj hq).symm⟩, fun hq => congrArg some hq.2.symm⟩

/-! ## Quanta -/

theorem quanta_eq (x : Binary64) : x.quanta = x.significand * 2 ^ x.scale := by
  rw [quanta, Nat.shiftLeft_eq]

/-- **A magnitude is its quanta**, of which `2 ^ 1074` make one. -/
theorem magnitude_eq (x : Binary64) : x.magnitude = (x.quanta : ℚ) * 2 ^ (-(1074 : ℕ) : ℤ) := by
  have htwo : (2 : ℚ) ≠ 0 := two_ne_zero
  rw [quanta_eq, magnitude, significand, scale]
  by_cases h : x.exponent = 0
  · have hpower : (2 : ℚ) ^ (-1022 : ℤ) = 2 ^ (52 : ℕ) * 2 ^ (-(1074 : ℕ) : ℤ) := by
      rw [← zpow_natCast, ← zpow_add₀ htwo]
      rfl
    rw [if_pos h, if_pos h, hpower, h]
    generalize (2 : ℚ) ^ (-(1074 : ℕ) : ℤ) = quantum
    push_cast
    field_simp
  · have hpower : (2 : ℚ) ^ ((x.exponent : ℤ) - 1023)
        = 2 ^ (52 : ℕ) * (2 ^ (x.exponent - 1) * 2 ^ (-(1074 : ℕ) : ℤ)) := by
      rw [← zpow_natCast, ← zpow_natCast, ← zpow_add₀ htwo, ← zpow_add₀ htwo]
      congr 1
      omega
    rw [if_neg h, if_neg h, hpower]
    generalize (2 : ℚ) ^ (-(1074 : ℕ) : ℤ) = quantum
    push_cast
    field_simp
    ring

theorem magnitude_nonneg (x : Binary64) : 0 ≤ x.magnitude := by
  rw [magnitude_eq]
  exact mul_nonneg (Nat.cast_nonneg _) (zpow_nonneg zero_le_two _)

/-- Shifting to the right is dividing by a power of two and taking the floor. -/
theorem shiftRight_eq_floor (m n : Nat) : m >>> n = ⌊(m : ℚ) * 2 ^ (-(n : ℕ) : ℤ)⌋₊ := by
  have hdiv : (m : ℚ) * 2 ^ (-(n : ℕ) : ℤ) = (m : ℚ) / ((2 ^ n : ℕ) : ℚ) := by
    rw [zpow_neg, zpow_natCast, Nat.cast_pow, Nat.cast_ofNat, div_eq_mul_inv]
  rw [hdiv, Nat.floor_div_eq_div, Nat.shiftRight_eq_div_pow]

/-- Dropping the places after the point is taking the floor of the magnitude. -/
theorem truncate_eq (x : Binary64) :
    x.truncate = if x.negative then -(⌊x.magnitude⌋₊ : Int) else (⌊x.magnitude⌋₊ : Int) := by
  rw [truncate, shiftRight_eq_floor, magnitude_eq]

/-! ## Signed words -/

theorem isNaN_of_isFinite {x : Binary64} (h : x.isFinite = true) : x.isNaN = false := by
  simp only [isFinite, bne_iff_ne, ne_eq] at h
  simp [isNaN, h]

/-- **A finite number becomes a positive word just when it lies between that word and the next.**
The last word is left out: it stands for everything beyond it as well. -/
theorem toSignedWord_eq_iff {x : Binary64} {n : Nat} (hpos : 0 < n) (hlt : n < 0x7FFFFFFFFFFFFFFF) :
    (x.isFinite = true ∧ x.toSignedWord = n)
      ↔ ∃ q, x.value? = some q ∧ (n : ℚ) ≤ q ∧ q < n + 1 := by
  have hword (h : x.isFinite = true) : x.toSignedWord = n ↔ x.truncate = n := by
    rw [toSignedWord, isNaN_of_isFinite h]
    simp only [Bool.false_eq_true, if_false]
    omega
  simp only [value?_eq_some_iff]
  constructor
  · rintro ⟨hfinite, hn⟩
    rw [hword hfinite, truncate_eq] at hn
    cases hsign : x.negative with
    | true =>
      rw [hsign, if_pos rfl] at hn
      omega
    | false =>
      rw [hsign, if_neg (by decide)] at hn
      have hfloor : ⌊x.magnitude⌋₊ = n := by exact_mod_cast hn
      exact ⟨_, ⟨hfinite, rfl⟩, (Nat.floor_eq_iff x.magnitude_nonneg).mp hfloor⟩
  · rintro ⟨q, ⟨hfinite, hq⟩, hle, hlt'⟩
    refine ⟨hfinite, (hword hfinite).mpr ?_⟩
    cases hsign : x.negative with
    | true =>
      -- a negative number lies below every positive word
      have hn : (0 : ℚ) < n := by exact_mod_cast hpos
      have hm := x.magnitude_nonneg
      rw [hsign, if_pos rfl] at hq
      linarith
    | false =>
      rw [hsign, if_neg (by decide)] at hq
      subst hq
      have hfloor := (Nat.floor_eq_iff x.magnitude_nonneg).mpr ⟨hle, hlt'⟩
      rw [truncate_eq, hsign, if_neg (by decide), hfloor]

end LuaChunk.Binary64
