import LuaChunk.Fault
import LuaChunk.File.Load
import LuaChunk.Yaml.Node

/-!
# Listing/Structured — the listing of a chunk file as a document

The tree of a file with its instructions taken apart: each becomes an **entry** with its position,
word, mnemonic, operands and, for a branch, its target.  An entry exists for every word whose code
names an operation; indices are not looked up.
-/

namespace LuaChunk

/-- An instruction taken apart. -/
structure Entry where
  pc : Nat
  word : String
  mnemonic : String
  operands : List String
  target : Option Int
  deriving DecidableEq, Repr

namespace Operands

/-- Operands one by one. -/
def texts : Operands → List String
  | .none => []
  | .unsigned u => [decimal u]
  | .signed s => [integer s]
  | .pair a b => [decimal a, decimal b]

end Operands

namespace Entry

/-- Takes apart the word at a site. -/
def ofWord (site : Site) (w : Word) : Except Fault Entry :=
  match w.opcode? with
  | some op =>
    .ok { pc := site.pc
          word := w.hex
          mnemonic := op.mnemonic
          operands := (w.operandsIn op.shape).texts
          target := w.target? site.pc }
  | none => .error (.unknownOpcode site w.code w)

def node (e : Entry) : Yaml.Node :=
  .mapping ([("pc", .integer e.pc), ("word", .string e.word), ("mnemonic", .string e.mnemonic),
    ("operands", .sequence (e.operands.map .string))]
    ++ (match e.target with
      | some t => [("target", .integer t)]
      | none => []))

end Entry

/-- A function with its instructions taken apart. -/
structure Assembly where
  source : String
  line : Int32
  parameters : Int32
  vararg : Bool
  stack : Int32
  locals : List LocalVar
  lines : List Int32
  strings : List String
  numbers : List Binary64
  entries : List Entry
  functions : List Assembly

namespace LocalVar

def node (v : LocalVar) : Yaml.Node :=
  .mapping [("name", .string v.name), ("start_pc", .integer v.start.toInt),
    ("end_pc", .integer v.stop.toInt)]

end LocalVar

namespace Assembly

mutual

/-- Takes a function apart, with all that is nested in it. -/
def ofPrototype (path : String) : Prototype → Except Fault Assembly
  | ⟨source, line, parameters, vararg, stack, locals, lines, strings, numbers, functions,
      code⟩ => do
    let entries ← code.zipIdx.mapM fun e => Entry.ofWord ⟨path, e.2⟩ e.1
    let functions ← ofNested path 0 functions
    return { source, line, parameters, vararg, stack, locals, lines, strings, numbers, entries,
             functions }

/-- Takes apart the functions nested in one, from index `i` on. -/
def ofNested (path : String) (i : Nat) : List Prototype → Except Fault (List Assembly)
  | [] => .ok []
  | p :: ps => do
    let first ← ofPrototype (Path.function path i) p
    let rest ← ofNested path (i + 1) ps
    return first :: rest

end

mutual

/-- The keys of a function. -/
def fields : Assembly → List (String × Yaml.Node)
  | ⟨source, line, parameters, vararg, stack, locals, lines, strings, numbers, entries,
      functions⟩ =>
    [("source", .string source), ("line_number", .integer line.toInt),
     ("num_params", .integer parameters.toInt), ("is_vararg", .boolean vararg),
     ("max_stack_size", .integer stack.toInt),
     ("local_vars", .sequence (locals.map LocalVar.node)),
     ("line_info", .sequence (lines.map fun l => .integer l.toInt)),
     ("strings", .sequence (strings.map .string)),
     ("numbers", .sequence (numbers.map .number)),
     ("insts", .sequence (entries.map Entry.node)),
     ("functions", .sequence (nodes functions))]

/-- Functions as nodes. -/
def nodes : List Assembly → List Yaml.Node
  | [] => []
  | a :: as => .mapping a.fields :: nodes as

end

end Assembly

namespace Structured

/-- A byte as a node. -/
def byte (b : UInt8) : Yaml.Node := .integer b.toNat

def header (h : Header) : Yaml.Node :=
  .mapping [("marker", byte Header.marker), ("magic", .sequence (Header.magic.map byte)),
    ("version", byte h.version), ("little_endian", .boolean h.isLittle)]

def selfCheck (c : SelfCheck) : Yaml.Node :=
  .mapping (c.sizes.map (fun s => (s.1, byte s.2)) ++ [("test_number", .number c.sample)])

/-- The listing of a file. -/
def render (file : ChunkFile) : Except Fault String := do
  let main ← Assembly.ofPrototype "main" file.main
  return Yaml.document [("header", header file.header), ("self_check", selfCheck file.selfCheck),
    ("main", .mapping main.fields)]

end Structured

end LuaChunk
