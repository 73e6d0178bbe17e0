import LuaChunk.Trace

/-!
# Command/Terminal — records as a run shows them

A record may quote text from a file, and such text may hold **escape sequences**, which a terminal
obeys instead of showing.  Records are shown without them, and without control characters other
than those for blanks.  A sequence starts with ESC; the character after it decides how it goes on:

    ESC …            ends with its first character from `0` on
    ESC [ …          ends with its first character from `@` on
    ESC ] …          ends with BEL
    ESC P, X, ^, _   end with the byte `9C`, also inside the encoding of a character

ESC starts afresh, and CAN and SUB break off, wherever they stand.  A sequence that does not end
takes all that follows with it, the end of its line included.
-/

namespace LuaChunk.Command

namespace Terminal

/-- How far a sequence has been read. -/
inductive State where
  /-- No sequence. -/
  | ground
  /-- After ESC. -/
  | escape
  /-- After ESC and characters before `0`. -/
  | intermediate
  /-- After ESC and `[`. -/
  | control
  /-- After ESC and `P`. -/
  | device
  /-- …and a parameter. -/
  | deviceParameter
  /-- …and a character before `0`. -/
  | deviceIntermediate
  /-- In a string that the byte `9C` ends. -/
  | string
  /-- In a string that BEL ends. -/
  | command
  deriving DecidableEq, Repr

namespace State

/-- Whether blanks other than the space are shown although a sequence is being read. -/
def showsBlanks : State → Bool
  | .ground | .escape | .intermediate | .control => true
  | _ => false

/-- The state after a byte that follows ESC. -/
def afterEscape (byte : UInt8) : State :=
  if byte = 0x5B then .control
  else if byte = 0x5D then .command
  else if byte = 0x50 then .device
  else if byte = 0x58 ∨ byte = 0x5E ∨ byte = 0x5F then .string
  else if 0x20 ≤ byte ∧ byte < 0x30 then .intermediate
  else if 0x30 ≤ byte ∧ byte < 0x7F then .ground
  else .escape

/-- The state after a byte at the head of a device sequence. -/
def afterDevice (state : State) (byte : UInt8) : State :=
  if 0x20 ≤ byte ∧ byte < 0x30 then .deviceIntermediate
  else if 0x30 ≤ byte ∧ byte < 0x3C then .deviceParameter
  else if 0x3C ≤ byte ∧ byte < 0x40 then
    if state = .device then .deviceParameter else .string
  else if 0x40 ≤ byte ∧ byte < 0x7F then .string
  else state

/-- The state after a byte that is not shown. -/
def next (state : State) (byte : UInt8) : State :=
  if byte = 0x1B then .escape
  else if byte = 0x18 ∨ byte = 0x1A then .ground
  else match state with
    | .ground => .ground
    | .escape => afterEscape byte
    | .intermediate => if 0x30 ≤ byte ∧ byte < 0x7F then .ground else .intermediate
    | .control => if 0x40 ≤ byte ∧ byte < 0x7F then .ground else .control
    | .device => afterDevice .device byte
    | .deviceParameter => afterDevice .deviceParameter byte
    | .deviceIntermediate => if 0x30 ≤ byte ∧ byte < 0x7F then .string else .deviceIntermediate
    | .string => if byte = 0x9C then .ground else .string
    | .command => if byte = 0x07 then .ground else .command

/-- The state after a character that is not shown, byte by byte. -/
def skip (state : State) (c : Char) : State := (String.utf8EncodeChar c).foldl next state

end State

/-- Characters that are shown outside of sequences, blanks apart. -/
def isVisible (c : Char) : Bool := 0x20 ≤ c.toNat && c.toNat != 0x7F

/-- The blanks other than the space. -/
def isBlank (c : Char) : Bool := c == '\t' || c == '\n' || c == '\x0c' || c == '\r'

/-- Text without its sequences.  While text is being `shown`, only a control character ends it; so
characters after a blank inside a sequence are text again, and the sequence goes on after the next
control character unless a character beyond ASCII came before. -/
def plain : (state : State) → (shown : Bool) → List Char → List Char
  | _, _, [] => []
  | state, shown, c :: rest =>
    if isVisible c && (shown || state == .ground) then
      c :: plain (if c.toNat < 0x80 then state else .ground) true rest
    else if isBlank c && (shown || state.showsBlanks) then c :: plain state true rest
    else plain (state.skip c) false rest

/-- Text without escape sequences and control characters. -/
def strip (s : String) : String := String.ofList (plain .ground true s.toList)

/-- A piece of what a run shows: a record, or other text. -/
structure Piece where
  isRecord : Bool
  text : String
  deriving DecidableEq, Repr

/-- The lines of some pieces.  A line belongs to the record whose first line it is; a line that was
left `unfinished` goes on with the next piece. -/
def lines (unfinished : Option Piece) : List Piece → List Piece
  | [] => unfinished.toList
  | piece :: rest =>
    match piece.text.splitOn "\n" with
    | [] => lines unfinished rest
    | first :: more =>
      let opened : Piece := match unfinished with
        | some line => ⟨line.isRecord, line.text ++ first⟩
        | none => ⟨piece.isRecord, first⟩
      let all := opened :: more.map fun text => ⟨false, text⟩
      let last := all.getLast?.filter fun line => !line.text.isEmpty
      all.dropLast ++ lines last rest

end Terminal

end LuaChunk.Command

namespace LuaChunk.Record

/-- A record as a run shows it: further lines of its message stand four columns in. -/
def terminalText (r : Record) : String :=
  Command.Terminal.strip ("\n    ".intercalate (r.line.splitOn "\n") ++ "\n")

end LuaChunk.Record
