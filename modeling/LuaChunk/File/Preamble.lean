import LuaChunk.Binary64.Style
import LuaChunk.Code.Word
import LuaChunk.Input.Field

/-!
# File/Preamble — the header and the self-check record

A chunk file opens with an escape byte, the letters `Lua`, a version and a byte order.  Then the
compiler that wrote it records the sizes it assumed, and a sample number.  A loader compares the
record with its own sizes; of the sample only the part before the point counts, as a signed word.
-/

namespace LuaChunk

/-- The header of a chunk file. -/
structure Header where
  version : UInt8
  order : ByteOrder
  deriving DecidableEq, Repr

namespace Header

/-- The first byte of every chunk file. -/
def marker : UInt8 := 0x1B

/-- The letters after it. -/
def magic : List UInt8 := [0x4C, 0x75, 0x61]

/-- The version byte of Lua 4.0. -/
def currentVersion : UInt8 := 0x40

/-- The byte order that a flag declares. -/
def order? : UInt8 → Option ByteOrder
  | 0 => some .big
  | 1 => some .little
  | _ => none

/-- Whether the least significant bytes come first. -/
def isLittle (h : Header) : Bool := h.order == .little

/-- Reads a header.  A foreign version is reported and accepted. -/
def read : Reader Header := do
  let first ← Reader.byte "marker"
  if first != marker then
    Reader.fail (.invalidHeader ⟨"marker", hexWord 2 first.toNat, hexWord 2 marker.toNat⟩)
  else do
    let letters ← Reader.take 3 "magic"
    if letters != magic then
      Reader.fail (.invalidHeader ⟨"magic", hexBytes letters, "\"Lua\""⟩)
    else do
      let version ← Reader.byte "version"
      Reader.reportIf (version != currentVersion) (.version version currentVersion)
      let flag ← Reader.byte "little_endian"
      match order? flag with
      | some order => return ⟨version, order⟩
      | none =>
        Reader.fail (.invalidHeader ⟨"endianness flag", decimal flag.toNat, "0 or 1"⟩)

end Header

/-- The sizes that the writing compiler assumed, and a sample number. -/
structure SelfCheck where
  sizeInt : UInt8
  sizeSizeT : UInt8
  sizeInstruction : UInt8
  instructionBits : UInt8
  codeBits : UInt8
  bBits : UInt8
  sizeNumber : UInt8
  sample : Binary64
  deriving DecidableEq, Repr

namespace SelfCheck

/-- The sample number, `3.14159265358979323846e8`. -/
def sampleNumber : Binary64 := ⟨0x41B2B9B0A15BE612⟩

/-- The record of a file that this reader can read. -/
def expected : SelfCheck where
  sizeInt := 4
  sizeSizeT := 4
  sizeInstruction := 4
  instructionBits := UInt8.ofNat Field.wordWidth
  codeBits := UInt8.ofNat Field.codeWidth
  bBits := UInt8.ofNat Field.bWidth
  sizeNumber := 8
  sample := sampleNumber

/-- The sizes by name, in the order of the record. -/
def sizes (c : SelfCheck) : List (String × UInt8) :=
  [("size_int", c.sizeInt), ("size_size_t", c.sizeSizeT), ("size_instruction", c.sizeInstruction),
   ("test_size_instruction", c.instructionBits), ("test_size_op", c.codeBits),
   ("test_size_b", c.bBits), ("size_number", c.sizeNumber)]

/-- Sample numbers are written out in full, without an exponent and without places that are zero. -/
def sampleStyle : NumberStyle where
  tie := .larger
  positional := fun _ => true
  whole := ""
  nan := "NaN"
  infinity := "inf"

/-- The first pair of sizes that differ. -/
def sizeMismatch? : List (String × UInt8) → List (String × UInt8) → Option Mismatch
  | (what, found) :: rest, (_, wanted) :: rest' =>
    if found != wanted then some ⟨what, decimal found.toNat, decimal wanted.toNat⟩
    else sizeMismatch? rest rest'
  | _, _ => none

/-- The first difference between a record and the expected one. -/
def mismatch? (c : SelfCheck) : Option Mismatch :=
  match sizeMismatch? c.sizes expected.sizes with
  | some m => some m
  | none =>
    if c.sample.isFinite && c.sample.toSignedWord == sampleNumber.toSignedWord then none
    else some ⟨"test_number", c.sample.render sampleStyle, sampleNumber.render sampleStyle⟩

/-- Reads a record. -/
def read : Reader SelfCheck := do
  return {
    sizeInt := ← Reader.byte "size_int"
    sizeSizeT := ← Reader.byte "size_size_t"
    sizeInstruction := ← Reader.byte "size_instruction"
    instructionBits := ← Reader.byte "test_size_instruction"
    codeBits := ← Reader.byte "test_size_op"
    bBits := ← Reader.byte "test_size_b"
    sizeNumber := ← Reader.byte "size_number"
    sample := ← Reader.binary64 "test_number" }

/-- Equality of records, with the samples compared as numbers. -/
def equals (c d : SelfCheck) : Bool := c.sizes == d.sizes && c.sample.equals d.sample

end SelfCheck

end LuaChunk
