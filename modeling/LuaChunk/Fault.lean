import LuaChunk.Code.Word

/-!
# Fault — what can be wrong with a chunk file

A fault says what was found and where.  Faults of reading name a field by its **path** from the
outermost table inwards (`main.local_vars[0].start_pc`); the reader of a field knows only the
innermost name, and each enclosing reader puts its own segment in front with `Fault.within`.
Faults of listing name an instruction by the path of its function and its position there.
-/

namespace LuaChunk

/-- A value that differs from the one required. -/
structure Mismatch where
  what : String
  found : String
  expected : String
  deriving DecidableEq, Repr

/-- What can be wrong with a string whose length is not negative. -/
inductive StringDefect where
  | noRoom
  | noTerminator
  /-- Anything else, in words. -/
  | other (reason : String)
  deriving DecidableEq, Repr

namespace StringDefect

def reason : StringDefect → String
  | .noRoom => "zero length leaves no room for the terminator"
  | .noTerminator => "missing NUL terminator"
  | .other reason => reason

/-- The defect of a reason. -/
def ofReason (reason : String) : StringDefect :=
  ([noRoom, noTerminator].find? fun d => d.reason == reason).getD (.other reason)

end StringDefect

/-- The tables that instructions index. -/
inductive Table where
  | strings
  | numbers
  | locals
  | functions
  /-- A table by its name. -/
  | other (name : String)
  deriving DecidableEq, Repr

namespace Table

def name : Table → String
  | .strings => "strings"
  | .numbers => "numbers"
  | .locals => "local_vars"
  | .functions => "functions"
  | .other name => name

/-- The table of a name. -/
def ofName (name : String) : Table :=
  ([strings, numbers, locals, functions].find? fun t => t.name == name).getD (.other name)

end Table

/-- The place of an instruction: the path of its function and its position there. -/
structure Site where
  path : String
  pc : Nat
  deriving DecidableEq, Repr

/-- The faults of reading and listing a chunk file. -/
inductive Fault where
  | invalidHeader (mismatch : Mismatch)
  | truncated (field : String) (offset needed available : Nat)
  | malformedLength (field : String) (offset : Nat) (length : Int)
  | malformedString (field : String) (offset : Nat) (defect : StringDefect)
  | selfCheckMismatch (mismatch : Mismatch)
  | unknownOpcode (site : Site) (code : Nat) (word : Word)
  | operandIndexOutOfRange (site : Site) (op : Opcode) (table : Table) (index length : Nat)
  | tooDeeplyNested (path : String) (limit : Nat)
  | inputTooLarge (length limit : Nat)
  | formatting
  /-- The listing is beyond the machine. -/
  | overrun (overrun : Overrun)
  deriving DecidableEq, Repr

namespace Path

/-- Puts a segment in front of a path.  An index joins on directly, a name after a dot, and an
empty path leaves the segment alone. -/
def join (segment rest : String) : String :=
  match rest.toList with
  | [] => segment
  | '[' :: _ => segment ++ rest
  | _ => segment ++ "." ++ rest

/-- The segment of a table entry. -/
def index (i : Nat) : String := "[" ++ decimal i ++ "]"

/-- The path of a nested function. -/
def function (path : String) (i : Nat) : String := path ++ ".functions" ++ index i

end Path

namespace Fault

/-- Puts an enclosing segment in front of the path of a fault of reading. -/
def within (segment : String) : Fault → Fault
  | .truncated field offset needed available =>
    .truncated (Path.join segment field) offset needed available
  | .malformedLength field offset length => .malformedLength (Path.join segment field) offset length
  | .malformedString field offset defect => .malformedString (Path.join segment field) offset defect
  | .tooDeeplyNested path limit => .tooDeeplyNested (Path.join segment path) limit
  | fault => fault

/-- The path of the field a fault of reading is about. -/
def field? : Fault → Option String
  | .truncated field .. | .malformedLength field .. | .malformedString field .. => some field
  | .tooDeeplyNested path _ => some path
  | _ => none

/-- What is said of a fault. -/
def message : Fault → String
  | .invalidHeader m =>
    "invalid header: " ++ m.what ++ " is " ++ m.found ++ ", expected " ++ m.expected
  | .truncated field offset needed available =>
    "unexpected end of input reading `" ++ field ++ "` at offset " ++ hexWord 0 offset
      ++ ": needed " ++ decimal needed ++ " bytes, " ++ decimal available ++ " left"
  | .malformedLength field offset length =>
    "malformed length " ++ integer length ++ " for `" ++ field ++ "` at offset " ++ hexWord 0 offset
  | .malformedString field offset defect =>
    "malformed string `" ++ field ++ "` at offset " ++ hexWord 0 offset ++ ": " ++ defect.reason
  | .selfCheckMismatch m =>
    "self-check mismatch: " ++ m.what ++ " is " ++ m.found ++ ", this reader expects " ++ m.expected
  | .unknownOpcode site code word =>
    word.unknownText code ++ " at " ++ site.path ++ " pc=" ++ decimal site.pc
  | .operandIndexOutOfRange site op table index length =>
    site.path ++ " pc=" ++ decimal site.pc ++ ": " ++ op.mnemonic ++ " references " ++ table.name
      ++ Path.index index ++ ", but only " ++ decimal length ++ " entries exist"
  | .tooDeeplyNested path limit =>
    "function nesting exceeds the limit of " ++ decimal limit ++ " at `" ++ path ++ "`"
  | .inputTooLarge length limit =>
    "input is " ++ decimal length ++ " bytes, over the limit of " ++ decimal limit
  | .formatting => "formatting failed"
  | .overrun o => o.message

end Fault

end LuaChunk
