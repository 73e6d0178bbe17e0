import LuaChunk.Charset.Gb18030
import LuaChunk.Charset.ShiftJis
import LuaChunk.Charset.Utf8
import LuaChunk.Charset.Windows1252
import LuaChunk.Naming

/-!
# Charset/Basic — the character sets a chunk's strings may be in

Strings in a chunk are bytes.  A character set turns them into text, with `U+FFFD` for each
malformed symbol; a leading byte order mark is text like any other.
-/

namespace LuaChunk

/-- The character sets. -/
inductive Charset where
  | utf8
  | sjis
  /-- Decoded as GB 18030, which contains it. -/
  | gbk
  /-- Decoded as windows-1252, which contains it but for control characters. -/
  | latin1
  deriving DecidableEq, Repr, Inhabited

namespace Charset

/-- The name of a character set. -/
def name : Charset → String
  | .utf8 => "utf8"
  | .sjis => "sjis"
  | .gbk => "gbk"
  | .latin1 => "latin1"

/-- The name of a character set with a capital. -/
def label : Charset → String
  | .utf8 => "Utf8"
  | .sjis => "Sjis"
  | .gbk => "Gbk"
  | .latin1 => "Latin1"

def all : List Charset := [.utf8, .sjis, .gbk, .latin1]

/-- The character set of a name in lower case, aliases included. -/
def ofAlias? : String → Option Charset
  | "utf8" | "utf-8" => some .utf8
  | "sjis" | "shift_jis" | "shift-jis" => some .sjis
  | "gbk" | "gb18030" => some .gbk
  | "latin1" | "cp1252" => some .latin1
  | _ => none

/-- Reads the name of a character set. -/
def read (s : String) : Except UnknownName Charset := readName "text encoding" ofAlias? s

/-- The symbols of a string of bytes. -/
def symbols : Charset → List UInt8 → List Symbol
  | .utf8 => Utf8.machine.decode
  | .sjis => ShiftJis.machine.decode
  | .gbk => Gb18030.machine.decode
  | .latin1 => Windows1252.machine.decode

/-- The replacement character. -/
def replacement : Char := Char.ofNat 0xFFFD

/-- Decoded text. -/
def decode (cs : Charset) (bytes : List UInt8) : String :=
  String.ofList ((cs.symbols bytes).map fun s => s.getD replacement)

/-- Whether some of the bytes name no character. -/
def malformed (cs : Charset) (bytes : List UInt8) : Bool :=
  (cs.symbols bytes).any fun s => s.isNone

end Charset

end LuaChunk
