import LuaChunk.Code.Opcode
import LuaChunk.Numeral
import LuaChunk.Overrun

/-!
# Code/Word — instruction words and their fields

    31             15 14       6 5     0
    ├────── A ───────┼─── B ────┼ code ─┤
    ├──────────── U, S ─────────┼ code ─┤

A word is 32 bits: the code of its operation in the low six, the operands above.  Fields are read
as plain numbers, so no reading can overflow; the signed operand `S` is `U` less a bias.  Assembling
checks each operand against the width of its field and refuses what would not fit.
-/

namespace LuaChunk

/-- An instruction word as a chunk stores it. -/
structure Word where
  bits : UInt32
  deriving DecidableEq, Repr, Inhabited

/-- Operands, read or written by the shape of an operation. -/
inductive Operands where
  | none
  | unsigned (u : Nat)
  | signed (s : Int)
  | pair (a b : Nat)
  deriving DecidableEq, Repr

namespace Field

/-! ## Widths and positions -/

def wordWidth : Nat := 32
def codeWidth : Nat := 6
def bWidth : Nat := 9
def uWidth : Nat := wordWidth - codeWidth
def uPosition : Nat := codeWidth
def bPosition : Nat := codeWidth
def aPosition : Nat := codeWidth + bWidth
def aWidth : Nat := wordWidth - aPosition

/-- The largest unsigned operand. -/
def maxU : Nat := 1 <<< uWidth - 1

/-- The bias of the signed operand, and the largest magnitude it has below zero. -/
def maxS : Nat := maxU / 2

/-- The largest first operand of a pair. -/
def maxA : Nat := 1 <<< aWidth - 1

/-- The largest second operand of a pair. -/
def maxB : Nat := 1 <<< bWidth - 1

end Field

/-- The operand fields of a word. -/
inductive Slot where
  | u | s | a | b
  deriving DecidableEq, Repr

namespace Slot

def name : Slot → String
  | .u => "U"
  | .s => "S"
  | .a => "A"
  | .b => "B"

end Slot

/-- An operand that its field cannot hold. -/
structure OperandOverflow where
  slot : Slot
  value : Int
  deriving DecidableEq, Repr

namespace OperandOverflow

def message (e : OperandOverflow) : String :=
  e.slot.name ++ " operand " ++ integer e.value ++ " out of range"

end OperandOverflow

namespace Word

/-! ## Reading fields -/

/-- The six bits that name the operation. -/
def code (w : Word) : Nat := w.bits.toNat % 64

/-- The operation a word performs, if its code names one. -/
def opcode? (w : Word) : Option Opcode := Opcode.ofCode? w.code

/-- The unsigned operand. -/
def u (w : Word) : Nat := w.bits.toNat / 64

/-- The signed operand. -/
def s (w : Word) : Int := (w.u : Int) - (Field.maxS : Int)

/-- The first operand of a pair. -/
def a (w : Word) : Nat := w.bits.toNat / 32768

/-- The second operand of a pair. -/
def b (w : Word) : Nat := w.u % 512

/-- The operands of a word read with a given shape. -/
def operandsIn (w : Word) : Shape → Operands
  | .none => .none
  | .unsigned => .unsigned w.u
  | .signed => .signed w.s
  | .pair => .pair w.a w.b

/-- The operands of a word read by its own operation. -/
def operands? (w : Word) : Option Operands := w.opcode?.map fun op => w.operandsIn op.shape

/-- Where a branching word at position `pc` leads.  Offsets count from the word after the branch. -/
def target? (w : Word) (pc : Int) : Option Int :=
  w.opcode?.bind fun op => if op.isBranch then some (pc + 1 + w.s) else none

/-- What the branch of a word at `pc` counts from.  The position is read as a signed word, and the
position after it and the target have to be signed words too. -/
def origin (w : Word) (pc : Nat) : Except Overrun Int :=
  match w.target? (signedWord pc) with
  | none => .ok (signedWord pc)
  | some target =>
    if isSignedWord (signedWord pc + 1) && isSignedWord target then .ok (signedWord pc)
    else .error .sum

/-! ## Assembling -/

/-- The word of an operation and an operand number of 26 bits. -/
def pack (op : Opcode) (u : Nat) : Word := ⟨UInt32.ofNat (op.code + 64 * u)⟩

/-- Assembles an operation with operands, of its own shape or any other.  Of a pair, the first
operand is checked first. -/
def assemble (op : Opcode) : Operands → Except OperandOverflow Word
  | .none => .ok (pack op 0)
  | .unsigned u => if u ≤ Field.maxU then .ok (pack op u) else .error ⟨.u, u⟩
  | .signed s =>
    if 0 ≤ s + (Field.maxS : Int) ∧ s + (Field.maxS : Int) ≤ (Field.maxU : Int) then
      .ok (pack op (s + (Field.maxS : Int)).toNat)
    else .error ⟨.s, s⟩
  | .pair a b =>
    if Field.maxA < a then .error ⟨.a, a⟩
    else if Field.maxB < b then .error ⟨.b, b⟩
    else .ok (pack op (512 * a + b))

/-! ## Texts -/

/-- A word as eight hexadecimal digits. -/
def hex (w : Word) : String := hexWord 8 w.bits.toNat

/-- A word beside the mnemonic of its operation. -/
def display (w : Word) : String :=
  "Instruction(" ++ w.hex ++ " " ++ (match w.opcode? with
    | some op => op.mnemonic
    | none => "?") ++ ")"

/-- What is said of a code that names no operation. -/
def unknownText (w : Word) (code : Nat) : String :=
  "unknown opcode " ++ decimal code ++ " in word " ++ w.hex

/-! ## Fields and the whole word -/

theorem code_lt (w : Word) : w.code < 64 := Nat.mod_lt _ (by decide)

theorem bits_lt (w : Word) : w.bits.toNat < 4294967296 := w.bits.toNat_lt

/-- **The code and the unsigned operand make up the word.** -/
theorem code_add_u (w : Word) : w.code + 64 * w.u = w.bits.toNat :=
  Nat.mod_add_div w.bits.toNat 64

/-- **The pair of operands makes up the unsigned one.** -/
theorem u_eq (w : Word) : w.u = 512 * w.a + w.b := by
  have h : w.a = w.u / 512 := by
    simp only [a, u, Nat.div_div_eq_div_mul]
  rw [h]
  exact (Nat.div_add_mod w.u 512).symm

end Word

end LuaChunk
