/-!
# Code/Opcode — the 49 operations of the Lua 4.0 machine

An operation has a code, its position in the instruction set, and a mnemonic.  Its **shape** says
how the 26 bits beside the code are read: not at all, as one unsigned operand, as one signed
operand, or as a pair.  `ofCode?_code` and `ofCode?_eq_none_iff` state that codes and operations are
in bijection on `0 … 48`.
-/

namespace LuaChunk

/-- The operations, in the order of their codes. -/
inductive Opcode where
  | endOfCode | ret | call | tailCall | pushNil
  | pop | pushInt | pushString | pushNum | pushNegNum
  | pushUpvalue | getLocal | getGlobal | getTable | getDotted
  | getIndexed | pushSelf | createTable | setLocal | setGlobal
  | setTable | setList | setMap | add | addI
  | sub | mult | div | pow | concat
  | minus | not | jmpNe | jmpEq | jmpLt
  | jmpLe | jmpGt | jmpGe | jmpT | jmpF
  | jmpOnT | jmpOnF | jmp | pushNilJmp | forPrep
  | forLoop | lForPrep | lForLoop | closure
  deriving DecidableEq, Repr, Inhabited

/-- How the operand bits of a word are read. -/
inductive Shape where
  /-- The operand bits are ignored. -/
  | none
  /-- One unsigned operand of 26 bits. -/
  | unsigned
  /-- One signed operand of 26 bits, stored with a bias. -/
  | signed
  /-- An operand of 17 bits beside one of 9. -/
  | pair
  deriving DecidableEq, Repr

namespace Opcode

/-- The instruction set, each operation at its own code. -/
def all : List Opcode :=
  [.endOfCode, .ret, .call, .tailCall, .pushNil, .pop, .pushInt, .pushString, .pushNum,
   .pushNegNum, .pushUpvalue, .getLocal, .getGlobal, .getTable, .getDotted, .getIndexed,
   .pushSelf, .createTable, .setLocal, .setGlobal, .setTable, .setList, .setMap, .add, .addI,
   .sub, .mult, .div, .pow, .concat, .minus, .not, .jmpNe, .jmpEq, .jmpLt, .jmpLe, .jmpGt, .jmpGe,
   .jmpT, .jmpF, .jmpOnT, .jmpOnF, .jmp, .pushNilJmp, .forPrep, .forLoop, .lForPrep, .lForLoop,
   .closure]

/-- The code of an operation, its position in the instruction set. -/
def code (op : Opcode) : Nat := op.ctorIdx

/-- The operation of a code, if it is one of the 49. -/
def ofCode? (n : Nat) : Option Opcode := all[n]?

/-- The name of an operation in words run together. -/
def label : Opcode → String
  | .endOfCode => "End"
  | .ret => "Return"
  | .call => "Call"
  | .tailCall => "TailCall"
  | .pushNil => "PushNil"
  | .pop => "Pop"
  | .pushInt => "PushInt"
  | .pushString => "PushString"
  | .pushNum => "PushNum"
  | .pushNegNum => "PushNegNum"
  | .pushUpvalue => "PushUpvalue"
  | .getLocal => "GetLocal"
  | .getGlobal => "GetGlobal"
  | .getTable => "GetTable"
  | .getDotted => "GetDotted"
  | .getIndexed => "GetIndexed"
  | .pushSelf => "PushSelf"
  | .createTable => "CreateTable"
  | .setLocal => "SetLocal"
  | .setGlobal => "SetGlobal"
  | .setTable => "SetTable"
  | .setList => "SetList"
  | .setMap => "SetMap"
  | .add => "Add"
  | .addI => "AddI"
  | .sub => "Sub"
  | .mult => "Mult"
  | .div => "Div"
  | .pow => "Pow"
  | .concat => "Concat"
  | .minus => "Minus"
  | .not => "Not"
  | .jmpNe => "JmpNe"
  | .jmpEq => "JmpEq"
  | .jmpLt => "JmpLt"
  | .jmpLe => "JmpLe"
  | .jmpGt => "JmpGt"
  | .jmpGe => "JmpGe"
  | .jmpT => "JmpT"
  | .jmpF => "JmpF"
  | .jmpOnT => "JmpOnT"
  | .jmpOnF => "JmpOnF"
  | .jmp => "Jmp"
  | .pushNilJmp => "PushNilJmp"
  | .forPrep => "ForPrep"
  | .forLoop => "ForLoop"
  | .lForPrep => "LForPrep"
  | .lForLoop => "LForLoop"
  | .closure => "Closure"

/-- The name of an operation as a listing shows it. -/
def mnemonic : Opcode → String
  | .endOfCode => "END"
  | .ret => "RETURN"
  | .call => "CALL"
  | .tailCall => "TAILCALL"
  | .pushNil => "PUSHNIL"
  | .pop => "POP"
  | .pushInt => "PUSHINT"
  | .pushString => "PUSHSTRING"
  | .pushNum => "PUSHNUM"
  | .pushNegNum => "PUSHNEGNUM"
  | .pushUpvalue => "PUSHUPVALUE"
  | .getLocal => "GETLOCAL"
  | .getGlobal => "GETGLOBAL"
  | .getTable => "GETTABLE"
  | .getDotted => "GETDOTTED"
  | .getIndexed => "GETINDEXED"
  | .pushSelf => "PUSHSELF"
  | .createTable => "CREATETABLE"
  | .setLocal => "SETLOCAL"
  | .setGlobal => "SETGLOBAL"
  | .setTable => "SETTABLE"
  | .setList => "SETLIST"
  | .setMap => "SETMAP"
  | .add => "ADD"
  | .addI => "ADDI"
  | .sub => "SUB"
  | .mult => "MULT"
  | .div => "DIV"
  | .pow => "POW"
  | .concat => "CONCAT"
  | .minus => "MINUS"
  | .not => "NOT"
  | .jmpNe => "JMPNE"
  | .jmpEq => "JMPEQ"
  | .jmpLt => "JMPLT"
  | .jmpLe => "JMPLE"
  | .jmpGt => "JMPGT"
  | .jmpGe => "JMPGE"
  | .jmpT => "JMPT"
  | .jmpF => "JMPF"
  | .jmpOnT => "JMPONT"
  | .jmpOnF => "JMPONF"
  | .jmp => "JMP"
  | .pushNilJmp => "PUSHNILJMP"
  | .forPrep => "FORPREP"
  | .forLoop => "FORLOOP"
  | .lForPrep => "LFORPREP"
  | .lForLoop => "LFORLOOP"
  | .closure => "CLOSURE"

/-- The operand shape of an operation. -/
def shape : Opcode → Shape
  | .endOfCode | .getTable | .add | .sub | .mult | .div | .pow | .minus | .not
  | .pushNilJmp => .none
  | .call | .tailCall | .setTable | .setList | .closure => .pair
  | .pushInt | .addI | .jmpNe | .jmpEq | .jmpLt | .jmpLe | .jmpGt | .jmpGe | .jmpT | .jmpF
  | .jmpOnT | .jmpOnF | .jmp | .forPrep | .forLoop | .lForPrep | .lForLoop => .signed
  | _ => .unsigned

/-- Conditional and unconditional jumps. -/
def isJump : Opcode → Bool
  | .jmpNe | .jmpEq | .jmpLt | .jmpLe | .jmpGt | .jmpGe | .jmpT | .jmpF | .jmpOnT | .jmpOnF
  | .jmp => true
  | _ => false

/-- The heads and tails of the two kinds of loop. -/
def isLoop : Opcode → Bool
  | .forPrep | .forLoop | .lForPrep | .lForLoop => true
  | _ => false

/-- Whether an operation moves the program counter by its operand. -/
def isBranch (op : Opcode) : Bool := op.isJump || op.isLoop

theorem length_all : all.length = 49 := rfl

/-- **Every operation is found at its own code.** -/
theorem ofCode?_code (op : Opcode) : ofCode? op.code = some op := by cases op <;> rfl

theorem code_lt (op : Opcode) : op.code < 49 := by cases op <;> decide

/-- …and only there: the codes of distinct operations are distinct. -/
theorem code_injective {op op' : Opcode} (h : op.code = op'.code) : op = op' := by
  have := ofCode?_code op
  rw [h, ofCode?_code] at this
  exact (Option.some.inj this).symm

/-- **The codes that name an operation are the first 49.** -/
theorem ofCode?_eq_none_iff (n : Nat) : ofCode? n = none ↔ 48 < n := by
  rw [ofCode?, List.getElem?_eq_none_iff, length_all]
  omega

/-- Only operations with a signed operand branch. -/
theorem shape_of_isBranch {op : Opcode} (h : op.isBranch = true) : op.shape = .signed := by
  revert h
  cases op <;> decide

end Opcode

end LuaChunk
