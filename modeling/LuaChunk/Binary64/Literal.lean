import LuaChunk.Binary64.Shortest

/-!
# Binary64/Literal — decimals as they are written

Digits, possibly with a point among them or at either end, possibly followed by an exponent.  There
must be a digit before the exponent.  A literal is read into the decimal it denotes, and is in
**range** if that decimal is not too large for a finite number.
-/

namespace LuaChunk

/-- The value of a digit. -/
def digitValue? (c : Char) : Option Nat :=
  if '0' ≤ c ∧ c ≤ '9' then some (c.toNat - 0x30)
  else if 'a' ≤ c ∧ c ≤ 'f' then some (c.toNat - 0x61 + 10)
  else if 'A' ≤ c ∧ c ≤ 'F' then some (c.toNat - 0x41 + 10)
  else none

/-- Digits continued to the right of a number, each below the base. -/
def continueDigits? (base : Nat) (n : Nat) : List Char → Option Nat
  | [] => some n
  | c :: cs =>
    match digitValue? c with
    | some d => if d < base then continueDigits? base (n * base + d) cs else none
    | none => none

/-- The number that a nonempty list of digits denotes. -/
def readDigits? (base : Nat) (cs : List Char) : Option Nat :=
  if cs.isEmpty then none else continueDigits? base 0 cs

namespace Decimal

def isDigit (c : Char) : Bool := '0' ≤ c && c ≤ '9'

/-- An exponent after its mark: a sign or none, and digits. -/
def readExponent? : List Char → Option Int
  | '+' :: cs => (readDigits? 10 cs).map fun n => (n : Int)
  | '-' :: cs => (readDigits? 10 cs).map fun n => -(n : Int)
  | cs => (readDigits? 10 cs).map fun n => (n : Int)

/-- What follows the digits: nothing, or an exponent. -/
def readTail? (digits : List Char) (places : Nat) : List Char → Option Decimal
  | [] => (readDigits? 10 digits).map fun n => ⟨n, -(places : Int)⟩
  | 'e' :: cs | 'E' :: cs => do
    let n ← readDigits? 10 digits
    let e ← readExponent? cs
    return ⟨n, e - (places : Int)⟩
  | _ => none

/-- Reads a literal without a sign. -/
def read? (cs : List Char) : Option Decimal :=
  let whole := cs.takeWhile isDigit
  match cs.dropWhile isDigit with
  | '.' :: rest =>
    let places := rest.takeWhile isDigit
    readTail? (whole ++ places) places.length (rest.dropWhile isDigit)
  | rest => readTail? whole 0 rest

/-- Whether a decimal rounds to a finite number. -/
def inRange (d : Decimal) : Bool := !Binary64.overflows d.coefficient d.power

end Decimal

end LuaChunk
