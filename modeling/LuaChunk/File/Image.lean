import LuaChunk.File.Load

/-!
# File/Image — chunk files byte for byte

An **image** is a chunk file before its strings are decoded: every string is a payload of bytes, and
the vararg flag is a byte.  `Image.File.bytes` writes an image in the layout of chunk files, and
`Image.File.interpret` gives the file that a reader makes of it.  `ChunkFile.image` goes the other
way, and picks for every text its UTF-8 bytes.
-/

namespace LuaChunk.Image

/-- A local variable. -/
structure Local where
  name : List UInt8
  start : Int32
  stop : Int32
  deriving DecidableEq, Repr

/-- A function. -/
structure Function where
  source : List UInt8
  line : Int32
  parameters : Int32
  vararg : UInt8
  stack : Int32
  locals : List Local
  lines : List Int32
  strings : List (List UInt8)
  numbers : List Binary64
  functions : List Function
  code : List Word

/-- A file. -/
structure File where
  header : Header
  selfCheck : SelfCheck
  main : Function

/-! ## Writing -/

/-- A signed word. -/
def int32 (order : ByteOrder) (i : Int32) : List UInt8 := order.bytes 4 i.toUInt32.toNat

/-- An unsigned word. -/
def uint32 (order : ByteOrder) (n : UInt32) : List UInt8 := order.bytes 4 n.toNat

/-- A floating-point number. -/
def binary64 (order : ByteOrder) (x : Binary64) : List UInt8 := order.bytes 8 x.bits.toNat

/-- A length or a number of entries. -/
def length (order : ByteOrder) (n : Nat) : List UInt8 := order.bytes 4 n

/-- A string: its length with the terminator, its payload, the terminator. -/
def string (order : ByteOrder) (payload : List UInt8) : List UInt8 :=
  length order (payload.length + 1) ++ payload ++ [0]

/-- A table: the number of its entries, then the entries. -/
def table {α : Type} (order : ByteOrder) (entry : α → List UInt8) (entries : List α) : List UInt8 :=
  length order entries.length ++ entries.flatMap entry

namespace Local

def bytes (order : ByteOrder) (v : Local) : List UInt8 :=
  string order v.name ++ int32 order v.start ++ int32 order v.stop

end Local

namespace Function

mutual

def bytes (order : ByteOrder) : Function → List UInt8
  | ⟨source, line, parameters, vararg, stack, locals, lines, strings, numbers, functions, code⟩ =>
    string order source ++ int32 order line ++ int32 order parameters ++ [vararg]
      ++ int32 order stack ++ table order (Local.bytes order) locals
      ++ table order (int32 order) lines ++ table order (string order) strings
      ++ table order (binary64 order) numbers
      ++ (length order functions.length ++ bytesAll order functions)
      ++ table order (fun (w : Word) => uint32 order w.bits) code

def bytesAll (order : ByteOrder) : List Function → List UInt8
  | [] => []
  | p :: ps => p.bytes order ++ bytesAll order ps

end

end Function

/-- The flag that declares a byte order. -/
def flag : ByteOrder → UInt8
  | .big => 0
  | .little => 1

def preamble (header : Header) (c : SelfCheck) : List UInt8 :=
  Header.marker :: Header.magic ++ [header.version, flag header.order]
    ++ c.sizes.map (fun s => s.2) ++ binary64 header.order c.sample

namespace File

/-- The bytes of a file. -/
def bytes (f : File) : List UInt8 :=
  preamble f.header f.selfCheck ++ f.main.bytes f.header.order

end File

/-! ## Reading -/

/-- The text of a payload. -/
def text (charset : Charset) (payload : List UInt8) : String :=
  charset.decode (Reader.trimNul payload)

namespace Local

def interpret (charset : Charset) (v : Local) : LocalVar := ⟨text charset v.name, v.start, v.stop⟩

end Local

namespace Function

mutual

/-- The function that a reader makes of an image. -/
def interpret (charset : Charset) : Function → Prototype
  | ⟨source, line, parameters, vararg, stack, locals, lines, strings, numbers, functions, code⟩ =>
    { source := text charset source
      line, parameters
      vararg := vararg != 0
      stack
      locals := locals.map (Local.interpret charset)
      lines
      strings := strings.map (text charset)
      numbers
      functions := interpretAll charset functions
      code }

def interpretAll (charset : Charset) : List Function → List Prototype
  | [] => []
  | p :: ps => p.interpret charset :: interpretAll charset ps

end

end Function

namespace File

/-- The file that a reader makes of an image. -/
def interpret (charset : Charset) (f : File) : ChunkFile :=
  ⟨f.header, f.selfCheck, f.main.interpret charset⟩

end File

end LuaChunk.Image

namespace LuaChunk

/-- The UTF-8 bytes of a text. -/
def textBytes (s : String) : List UInt8 := s.toUTF8.toList

namespace Prototype

mutual

/-- The image of a function, with texts in UTF-8. -/
def image : Prototype → Image.Function
  | ⟨source, line, parameters, vararg, stack, locals, lines, strings, numbers, functions, code⟩ =>
    { source := textBytes source
      line, parameters
      vararg := if vararg then 1 else 0
      stack
      locals := locals.map fun v => ⟨textBytes v.name, v.start, v.stop⟩
      lines
      strings := strings.map textBytes
      numbers
      functions := imageAll functions
      code }

def imageAll : List Prototype → List Image.Function
  | [] => []
  | p :: ps => p.image :: imageAll ps

end

end Prototype

namespace ChunkFile

/-- The image of a file in a byte order, with texts in UTF-8. -/
def image (order : ByteOrder) (f : ChunkFile) : Image.File :=
  ⟨{ f.header with order }, f.selfCheck, f.main.image⟩

end ChunkFile

end LuaChunk
