import LuaChunk.File.Load
import LuaChunk.Proofs.Input.Paths

/-!
# Proofs/File/Qualified — the paths of faults are the true paths

The readers of this module are told the full path of what they read, and nothing is put in front of
a fault afterwards.  `load_eq_qualified` says that loading a file comes to the same either way: the
same tree, the same fault with the same path, the same events.
-/

namespace LuaChunk

namespace Qualified

/-- The local variable at a path. -/
def localVar (path : String) : Reader LocalVar := do
  return {
    name := ← Reader.string (Path.field path "name")
    start := ← Reader.int32 (Path.field path "start_pc")
    stop := ← Reader.int32 (Path.field path "end_pc") }

/-- The instruction at a path. -/
def word (path : String) : Reader Word := do
  return ⟨← Reader.uint32 (Path.field path "instruction")⟩

/-- The function at a path and a depth, with `levels` levels allowed for it and those nested in
it. -/
def prototype (limit : Nat) : (levels depth : Nat) → (path : String) → Reader Prototype
  | 0, _, path => Reader.fail (.tooDeeplyNested path limit)
  | levels + 1, depth, path => do
    let source ← Reader.string (Path.field path "source")
    let line ← Reader.int32 (Path.field path "line_number")
    let parameters ← Reader.int32 (Path.field path "num_params")
    let vararg ← Reader.byte (Path.field path "is_vararg")
    let stack ← Reader.int32 (Path.field path "max_stack_size")
    let locals ← table localVar (Path.field path "local_vars")
    let lines ← table (fun p => Reader.int32 (Path.field p "line")) (Path.field path "line_info")
    let strings ← table (fun p => Reader.string (Path.field p "string")) (Path.field path "strings")
    let numbers ←
      table (fun p => Reader.binary64 (Path.field p "number")) (Path.field path "numbers")
    let functions ← table (prototype limit levels (depth + 1)) (Path.field path "functions")
    let code ← table word (Path.field path "instructions")
    let p : Prototype :=
      { source, line, parameters, vararg := vararg != 0, stack, locals, lines, strings, numbers,
        functions, code }
    Reader.report (p.readEvent depth)
    return p

/-- A file of allowed size, with its main function at `main`.  The fields of the header and of the
self-check record stand in nothing, and their names are their paths. -/
def file (options : LoadOptions) : Reader ChunkFile := do
  let header ← Header.read
  Reader.setOrder header.order
  let selfCheck ← SelfCheck.read
  ChunkFile.judge options.strictness selfCheck
  let main ← prototype options.maxDepth (options.maxDepth + 1) 0 "main"
  let c ← Reader.cursor
  Reader.reportIf (!c.rest.isEmpty) (.trailing c.remaining c.position)
  return { header, selfCheck, main }

/-- The file that bytes stand for, or what is wrong with them, and the events of finding out. -/
def load (options : LoadOptions) (bytes : List UInt8) : Except Fault ChunkFile × List Event :=
  if options.maxLength < bytes.length then
    (.error (.inputTooLarge bytes.length options.maxLength), [])
  else
    let o := (file options).run (Cursor.start bytes .little options.charset)
    (o.result, o.events)

end Qualified

namespace Reader

/-! ## Paths given beforehand

Every name of a field starts with a letter, so a dot stands before it; `decide` finds that out for
each of them. -/

theorem within_localVar (path : String) : within path LocalVar.read = Qualified.localVar path := by
  simp (disch := decide) only [LocalVar.read, Qualified.localVar, within_bind, within_string,
    within_int32, within_pure, Path.join_name]

theorem within_word (path : String) : within path Word.read = Qualified.word path := by
  simp (disch := decide) only [Word.read, Qualified.word, within_bind, within_uint32, within_pure,
    Path.join_name]

theorem within_line (path : String) :
    within path (int32 "line") = int32 (Path.field path "line") := by
  rw [within_int32, Path.join_name (by decide)]

theorem within_constant (path : String) :
    within path (string "string") = string (Path.field path "string") := by
  rw [within_string, Path.join_name (by decide)]

theorem within_number (path : String) :
    within path (binary64 "number") = binary64 (Path.field path "number") := by
  rw [within_binary64, Path.join_name (by decide)]

/-- **The path of a function may be given to its reader beforehand.** -/
theorem within_prototype (limit levels depth : Nat) (path : String) :
    within path (Prototype.read limit levels depth)
      = Qualified.prototype limit levels depth path := by
  induction levels generalizing depth path with
  | zero => rfl
  | succ levels ih =>
    have hfunction := ih (depth + 1)
    simp (disch := decide) only [Prototype.read, Qualified.prototype, within_bind, within_string,
      within_int32, within_byte, within_report, within_pure, Path.join_name,
      within_table within_localVar, within_table within_line, within_table within_constant,
      within_table within_number, within_table hfunction, within_table within_word]

end Reader

namespace ChunkFile

theorem read_eq_qualified (options : LoadOptions) : read options = Qualified.file options := by
  simp only [read, Qualified.file, Reader.within_prototype]

/-- **Faults name their fields by the true paths.**  Whatever the bytes and the options, a file
loads as if each field had been read by its full path, with the same tree or the same fault, path
included, and the same events on the way. -/
theorem load_eq_qualified (options : LoadOptions) (bytes : List UInt8) :
    load options bytes = Qualified.load options bytes := by
  rw [load, Qualified.load, read_eq_qualified]

end ChunkFile

end LuaChunk
