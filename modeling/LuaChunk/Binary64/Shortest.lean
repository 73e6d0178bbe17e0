import LuaChunk.Binary64.Basic

/-!
# Binary64/Shortest — the fewest decimal digits that read back

The reals that round to a finite number `x` form an interval around it; its ends belong to it just
when the significand is even.  Of the decimals `c · 10ᵏ` in the interval, the shortest are those
with the largest `k`, and of these the nearest to `x` is taken.  A decimal that lies in the interval
has one of the two neighbours of `x` on its own grid beside it in the interval, so only those two
are tried for each `k`.  When both are equally near, the caller says which one it wants.

Everything is counted in quarters of the last place of `x`, where `x` and the ends of its interval
are whole numbers.
-/

namespace LuaChunk

/-- The choice between two decimals that are equally near. -/
inductive Tie where
  | larger
  | even
  deriving DecidableEq, Repr

/-- The decimal `coefficient · 10 ^ power`. -/
structure Decimal where
  coefficient : Nat
  power : Int
  deriving DecidableEq, Repr

namespace Binary64

/-- `x`, in quarters of its last place. -/
def quarters (x : Binary64) : Nat := 4 * x.significand

/-- The lower end of the interval; a power of two has its lower neighbour twice as near. -/
def lowest (x : Binary64) : Nat :=
  if x.fraction = 0 ∧ 1 < x.exponent then x.quarters - 1 else x.quarters - 2

/-- The upper end of the interval. -/
def highest (x : Binary64) : Nat := x.quarters + 2

/-- A grid of decimals beside the quarters of a last place: `c · 10ᵏ` is `n` quarters just when
`c * step = n * unit`. -/
structure Grid where
  step : Nat
  unit : Nat

/-- The grid of the multiples of `10 ^ power`. -/
def grid (x : Binary64) (power : Int) : Grid :=
  { step := Nat.pow 10 power.toNat <<< (1076 - x.scale)
    unit := Nat.pow 10 (-power).toNat <<< (x.scale - 1076) }

/-- Whether a point of a grid rounds to `x`. -/
def accepts (x : Binary64) (g : Grid) (c : Nat) : Bool :=
  if x.significand % 2 = 0 then x.lowest * g.unit ≤ c * g.step && c * g.step ≤ x.highest * g.unit
  else x.lowest * g.unit < c * g.step && c * g.step < x.highest * g.unit

/-- The nearer of two neighbouring points around `x`. -/
def nearer (x : Binary64) (tie : Tie) (g : Grid) (c : Nat) : Nat :=
  let below := x.quarters * g.unit - c * g.step
  let above := (c + 1) * g.step - x.quarters * g.unit
  if below < above then c
  else if above < below then c + 1
  else match tie with
    | .larger => c + 1
    | .even => if c % 2 = 0 then c else c + 1

/-- The point of a grid that stands for `x`, if one rounds to it. -/
def onGrid? (x : Binary64) (tie : Tie) (power : Int) : Option Nat :=
  let g := x.grid power
  let c := x.quarters * g.unit / g.step
  match x.accepts g c, x.accepts g (c + 1) with
  | true, true => some (x.nearer tie g c)
  | true, false => some c
  | false, true => some (c + 1)
  | false, false => none

/-- Tries finer and finer grids. -/
def search (x : Binary64) (tie : Tie) : Nat → Int → Decimal
  | 0, power => ⟨x.quarters * (x.grid power).unit / (x.grid power).step, power⟩
  | tries + 1, power =>
    match x.onGrid? tie power with
    | some c => ⟨c, power⟩
    | none => search x tie tries (power - 1)

/-- A power of ten above `x`, at most two powers too high. -/
def ceiling (x : Binary64) : Int :=
  let bits : Int := (Nat.log2 x.significand : Int) + 1 + (x.scale : Int) - 1074
  bits * 30103 / 100000 + 1

/-- The shortest decimal of a finite number's magnitude.  Seventeen digits always suffice, so a
score of grids is enough. -/
def shortest (x : Binary64) (tie : Tie) : Decimal :=
  if x.isZero then ⟨0, 0⟩ else x.search tie 20 x.ceiling

end Binary64

end LuaChunk
