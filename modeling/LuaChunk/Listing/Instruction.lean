import LuaChunk.Binary64.Style
import LuaChunk.File.Prototype
import LuaChunk.Fault
import LuaChunk.Listing.Escape

/-!
# Listing/Instruction — what a listing says of one instruction

The instructions that push a constant or touch a variable are shown by what they refer to; all
others by their word, their code, their mnemonic and their operands, with the target of a branch.
An instruction can be shown only if its code names an operation and its index, if it has one, lies
in the table of its own function.
-/

namespace LuaChunk

/-- Number constants have an exponent from `10¹⁶` up and below `10⁻⁴`, and a place after the point
otherwise. -/
def constantStyle : NumberStyle where
  tie := .larger
  positional := fun point => -4 < point && point ≤ 16
  whole := ".0"
  nan := "NaN"
  infinity := "inf"

namespace Word

/-- The operands of a word in a listing; a branch counts from `origin`. -/
def operandText (w : Word) (op : Opcode) (origin : Int) : String :=
  match w.operandsIn op.shape with
  | .none => ""
  | .unsigned u => "U: " ++ decimal u
  | .signed s => "S: " ++ integer s ++ (match w.target? origin with
    | some t => " -> [" ++ integer t ++ "]"
    | none => "")
  | .pair a b => "A: " ++ decimal a ++ " B: " ++ decimal b

/-- A word, its code, its mnemonic and its operands.  The mnemonic fills a column if operands
follow. -/
def genericText (w : Word) (op : Opcode) (origin : Int) : String :=
  "-- " ++ w.hex ++ " => [" ++ fill '0' 2 (decimal op.code) ++ "] "
    ++ (if op.shape = .none then op.mnemonic else column 16 op.mnemonic) ++ w.operandText op origin

end Word

namespace Prototype

/-- An entry of a table, or the fault of an index beyond its end. -/
def lookup {α : Type} (site : Site) (op : Opcode) (table : Table) (entries : List α) (i : Nat) :
    Except Fault α :=
  match entries[i]? with
  | some a => .ok a
  | none => .error (.operandIndexOutOfRange site op table i entries.length)

/-- The text of a word that performs `op`. -/
def operationText (p : Prototype) (site : Site) (origin : Int) (w : Word) (op : Opcode) :
    Except Fault String :=
  match op with
  | .endOfCode => .ok "-- end --"
  | .ret => .ok "return"
  | .pushInt => .ok (integer w.s)
  | .pushString => do
    let s ← lookup site op .strings p.strings w.u
    return "\"" ++ escape s ++ "\""
  | .pushNum => do
    let n ← lookup site op .numbers p.numbers w.u
    return n.render constantStyle
  | .pushNegNum => do
    let n ← lookup site op .numbers p.numbers w.u
    return n.negate.render constantStyle
  | .getLocal => do
    let v ← lookup site op .locals p.locals w.u
    return "LOCAL[" ++ escape v.name ++ "]"
  | .setLocal => do
    let v ← lookup site op .locals p.locals w.u
    return "LOCAL[" ++ escape v.name ++ "]="
  | .getGlobal => do
    let s ← lookup site op .strings p.strings w.u
    return "GLOBAL[" ++ escape s ++ "]"
  | .setGlobal => do
    let s ← lookup site op .strings p.strings w.u
    return "GLOBAL[" ++ escape s ++ "]="
  | .closure => do
    let _ ← lookup site op .functions p.functions w.a
    return w.genericText op origin
  | _ => .ok (w.genericText op origin)

/-- The text of a word at a site, its branch counted from `origin`. -/
def describeFrom (p : Prototype) (site : Site) (origin : Int) (w : Word) : Except Fault String :=
  match w.opcode? with
  | some op => p.operationText site origin w op
  | none => .error (.unknownOpcode site w.code w)

/-- The text of a word of `p` at its own position. -/
def describe (p : Prototype) (site : Site) (w : Word) : Except Fault String :=
  p.describeFrom site site.pc w

/-- The text of a word at any position, which is a machine word. -/
def describeAt (p : Prototype) (site : Site) (w : Word) : Except Fault String :=
  match w.origin site.pc with
  | .ok origin => p.describeFrom site origin w
  | .error o => .error (.overrun o)

end Prototype

end LuaChunk
