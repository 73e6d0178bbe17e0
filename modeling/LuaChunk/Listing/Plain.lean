import LuaChunk.File.Load
import LuaChunk.Listing.Instruction

/-!
# Listing/Plain — the plain listing of a chunk file

A listing is a list of **lines**, each at the depth of its function.  The lines of a function are
those of its own tables and instructions, then, for each nested function, its lines one level deeper
and a blank line.  The width of a level matters only to `Line.render`, which writes it out, and to
the question whether there is room for the indentation at all.
-/

namespace LuaChunk

/-- A line of a listing. -/
inductive Line where
  | blank
  | text (depth : Nat) (body : String)
  deriving DecidableEq, Repr

namespace Line

/-- A line with its indentation and its end. -/
def render (width : Nat) : Line → String
  | .blank => "\n"
  | .text depth body => String.ofList (List.replicate (depth * width) ' ') ++ body ++ "\n"

end Line

namespace Plain

/-- The width of a level of depth, unless another is asked for. -/
def defaultIndent : Nat := 4

/-- The lines of a listing as one text. -/
def layout (width : Nat) (lines : List Line) : String := String.join (lines.map (Line.render width))

/-- The heading of a table. -/
def heading (title : String) (length : Nat) : String :=
  "-- " ++ title ++ " (" ++ decimal length ++ ") --"

/-- A numbered entry. -/
def numbered (i : Nat) (body : String) : String := " " ++ Path.index i ++ " " ++ body

/-- A table: its heading, and its entries by number. -/
def titled {α : Type} (title : String) (entries : List α) (body : α → String) : List String :=
  heading title entries.length :: entries.zipIdx.map fun e => numbered e.2 ("=> " ++ body e.1)

/-- The lines of a function up to its instructions. -/
def tables (p : Prototype) : List String :=
  ["-- @source " ++ escape p.source ++ ":" ++ integer p.line.toInt,
   "-- #params=" ++ integer p.parameters.toInt ++ " var_arg=" ++ truth p.vararg
     ++ " max_stack_size=" ++ integer p.stack.toInt]
  ++ titled "Local Vars" p.locals (fun v =>
      escape v.name ++ " (" ++ integer v.start.toInt ++ "-" ++ integer v.stop.toInt ++ ")")
  ++ titled "Line Info" p.lines (fun l => hexWord 8 l.toUInt32.toNat)
  ++ titled "String Constants" p.strings (fun s => "\"" ++ escape s ++ "\"")
  ++ titled "Number Constants" p.numbers (fun n => n.render constantStyle)

/-- The lines of a function's instructions. -/
def instructions (p : Prototype) (path : String) : Except Fault (List String) := do
  let texts ← p.code.zipIdx.mapM fun e => p.describe ⟨path, e.2⟩ e.1
  return heading "Instructions" p.code.length :: texts.zipIdx.map fun e => numbered e.2 e.1

mutual

/-- The lines of a function and all that is nested in it.  There has to be room for the indentation
of each function, the outer ones first. -/
def lines (width : Nat) (path : String) (depth : Nat) : Prototype → Except Fault (List Line)
  | p@⟨_, _, _, _, _, _, _, _, _, functions, _⟩ => do
    let _ ← (roomFor depth width).mapError Fault.overrun
    let code ← instructions p path
    let nested ← nestedLines width path depth 0 functions
    return (tables p ++ code ++ [heading "Function Constants" functions.length]).map (.text depth)
      ++ nested

/-- The lines of the functions nested in one at `depth`, from index `i` on. -/
def nestedLines (width : Nat) (path : String) (depth i : Nat) :
    List Prototype → Except Fault (List Line)
  | [] => .ok []
  | p :: ps => do
    let deeper ← (successor depth).mapError Fault.overrun
    let first ← lines width (Path.function path i) deeper p
    let rest ← nestedLines width path depth (i + 1) ps
    return first ++ .blank :: rest

end

/-- The listing of a function, as if it were a main function at `depth`. -/
def function (width depth : Nat) (p : Prototype) : Except Fault String := do
  return layout width (← lines width "main" depth p)

/-- The lines of the preamble. -/
def preamble (file : ChunkFile) : List String :=
  ["-- header: marker=" ++ hexWord 2 Header.marker.toNat ++ " magic=\"Lua\" version="
     ++ hexWord 2 file.header.version.toNat ++ " little_endian=" ++ truth file.header.isLittle,
   "-- self-check: int=" ++ decimal file.selfCheck.sizeInt.toNat
     ++ " size_t=" ++ decimal file.selfCheck.sizeSizeT.toNat
     ++ " instruction=" ++ decimal file.selfCheck.sizeInstruction.toNat
     ++ " (" ++ decimal file.selfCheck.instructionBits.toNat
     ++ "/" ++ decimal file.selfCheck.codeBits.toNat
     ++ "/" ++ decimal file.selfCheck.bBits.toNat
     ++ ") number=" ++ decimal file.selfCheck.sizeNumber.toNat
     ++ " test_number=" ++ file.selfCheck.sample.render SelfCheck.sampleStyle]

/-- The listing of a file. -/
def render (width : Nat) (file : ChunkFile) : Except Fault String := do
  let main ← lines width "main" 0 file.main
  return layout width ((preamble file).map (.text 0) ++ main)

end Plain

end LuaChunk
