import LuaChunk.File.Preamble
import LuaChunk.File.Prototype

/-!
# File/Load — from the bytes of a file to its tree

    header · self-check · main function · whatever is left

A function is its own fields, then its tables, then its nested functions, then its instructions.
`Prototype.read` recurses on the number of levels still allowed, so a file cannot make it go deeper
than the options say, whatever it declares.
-/

namespace LuaChunk

/-- What to do about a self-check record that differs. -/
inductive Strictness where
  /-- Refuse the file. -/
  | strict
  /-- Report it and read on. -/
  | lenient
  deriving DecidableEq, Repr, Inhabited

namespace Strictness

def name : Strictness → String
  | .strict => "strict"
  | .lenient => "lenient"

def label : Strictness → String
  | .strict => "Strict"
  | .lenient => "Lenient"

def all : List Strictness := [.strict, .lenient]

end Strictness

/-- How a file is read. -/
structure LoadOptions where
  /-- The deepest nesting allowed; the main function is at depth zero. -/
  maxDepth : Nat
  /-- The largest file allowed, in bytes. -/
  maxLength : Nat
  strictness : Strictness
  charset : Charset
  deriving DecidableEq, Repr

namespace LoadOptions

/-- A thousand levels, 64 MiB, and no difference tolerated. -/
def default : LoadOptions := ⟨1000, 64 <<< 20, .strict, .utf8⟩

end LoadOptions

/-- A chunk file. -/
structure ChunkFile where
  header : Header
  selfCheck : SelfCheck
  main : Prototype

namespace LocalVar

def read : Reader LocalVar := do
  return {
    name := ← Reader.string "name"
    start := ← Reader.int32 "start_pc"
    stop := ← Reader.int32 "end_pc" }

end LocalVar

namespace Word

def read : Reader Word := do
  return ⟨← Reader.uint32 "instruction"⟩

end Word

namespace Prototype

/-- The event of having read a function. -/
def readEvent (p : Prototype) (depth : Nat) : Event :=
  .function p.source p.line.toInt depth
    ⟨p.locals.length, p.strings.length, p.numbers.length, p.functions.length, p.code.length⟩

/-- Reads a function at a depth, with `levels` levels allowed for it and those nested in it. -/
def read (limit : Nat) : (levels depth : Nat) → Reader Prototype
  | 0, _ => Reader.fail (.tooDeeplyNested "" limit)
  | levels + 1, depth => do
    let source ← Reader.string "source"
    let line ← Reader.int32 "line_number"
    let parameters ← Reader.int32 "num_params"
    let vararg ← Reader.byte "is_vararg"
    let stack ← Reader.int32 "max_stack_size"
    let locals ← Reader.table "local_vars" LocalVar.read
    let lines ← Reader.table "line_info" (Reader.int32 "line")
    let strings ← Reader.table "strings" (Reader.string "string")
    let numbers ← Reader.table "numbers" (Reader.binary64 "number")
    let functions ← Reader.table "functions" (read limit levels (depth + 1))
    let code ← Reader.table "instructions" Word.read
    let p : Prototype :=
      { source, line, parameters, vararg := vararg != 0, stack, locals, lines, strings, numbers,
        functions, code }
    Reader.report (p.readEvent depth)
    return p

end Prototype

namespace ChunkFile

/-- Refuses a self-check record that differs, or reports it. -/
def judge (strictness : Strictness) (c : SelfCheck) : Reader Unit :=
  match c.mismatch?, strictness with
  | none, _ => pure ()
  | some m, .strict => Reader.fail (.selfCheckMismatch m)
  | some m, .lenient => Reader.report (.tolerated m)

/-- Reads a file of allowed size. -/
def read (options : LoadOptions) : Reader ChunkFile := do
  let header ← Header.read
  Reader.setOrder header.order
  let selfCheck ← SelfCheck.read
  judge options.strictness selfCheck
  let main ← Reader.within "main" (Prototype.read options.maxDepth (options.maxDepth + 1) 0)
  let c ← Reader.cursor
  Reader.reportIf (!c.rest.isEmpty) (.trailing c.remaining c.position)
  return { header, selfCheck, main }

/-- The file that bytes stand for, or what is wrong with them, and the events of finding out. -/
def load (options : LoadOptions) (bytes : List UInt8) : Except Fault ChunkFile × List Event :=
  if options.maxLength < bytes.length then
    (.error (.inputTooLarge bytes.length options.maxLength), [])
  else
    let o := (read options).run (Cursor.start bytes .little options.charset)
    (o.result, o.events)

/-- The file that bytes stand for. -/
def ofBytes (options : LoadOptions) (bytes : List UInt8) : Except Fault ChunkFile :=
  (load options bytes).1

/-- Equality of files, with numbers compared as numbers. -/
def equals (f g : ChunkFile) : Bool :=
  f.header == g.header && f.selfCheck.equals g.selfCheck && f.main.equals g.main

end ChunkFile

end LuaChunk
