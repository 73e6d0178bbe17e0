import LuaChunk.Charset.Basic
import LuaChunk.Fault

/-!
# Trace — what a run reports on the way

Reading a file goes on past some irregularities and reports them; it also reports each function it
has read.  A report is an **event** with a severity and a wording; a threshold decides which
severities are shown.
-/

namespace LuaChunk

/-- How serious a report is. -/
inductive Severity where
  | warn
  | info
  | debug
  deriving DecidableEq, Repr

/-- How much is shown, from nothing to everything. -/
inductive Threshold where
  | off
  | error
  | warn
  | info
  | debug
  | trace
  deriving DecidableEq, Repr, Inhabited

/-- A report with its wording. -/
structure Record where
  severity : Severity
  message : String
  deriving DecidableEq, Repr

namespace Threshold

/-- The thresholds, least output first. -/
def all : List Threshold := [.off, .error, .warn, .info, .debug, .trace]

def rank (t : Threshold) : Nat := t.ctorIdx

/-- The threshold raised by a number of steps, as far as they go. -/
def raise (t : Threshold) (steps : Nat) : Threshold := all[t.rank + steps]?.getD .trace

def name : Threshold → String
  | .off => "OFF"
  | .error => "ERROR"
  | .warn => "WARN"
  | .info => "INFO"
  | .debug => "DEBUG"
  | .trace => "TRACE"

def label : Threshold → String
  | .off => "Off"
  | .error => "Error"
  | .warn => "Warn"
  | .info => "Info"
  | .debug => "Debug"
  | .trace => "Trace"

/-- The threshold of a name, in any case. -/
def ofName? (s : String) : Option Threshold := all.find? fun t => t.name == s.toUpper

end Threshold

namespace Severity

/-- The least threshold that shows a severity. -/
def threshold : Severity → Threshold
  | .warn => .warn
  | .info => .info
  | .debug => .debug

end Severity

namespace Record

/-- Whether a record is shown. -/
def shown (t : Threshold) (r : Record) : Bool := r.severity.threshold.rank ≤ t.rank

/-- A record as a line. -/
def line (r : Record) : String := r.severity.threshold.name ++ " " ++ r.message

end Record

/-- The sizes of a function that has been read. -/
structure Tally where
  locals : Nat
  strings : Nat
  numbers : Nat
  functions : Nat
  instructions : Nat
  deriving DecidableEq, Repr

/-- What reading a file reports. -/
inductive Event where
  /-- The version byte is not the expected one. -/
  | version (found expected : UInt8)
  /-- The self-check record differs, and reading goes on. -/
  | tolerated (mismatch : Mismatch)
  /-- A string has bytes that name no character. -/
  | undecodable (charset : Charset) (bytes : List UInt8)
  /-- A function has been read to its end. -/
  | function (source : String) (line : Int) (depth : Nat) (tally : Tally)
  /-- Bytes are left after the main function. -/
  | trailing (count offset : Nat)
  deriving DecidableEq, Repr

namespace Event

def severity : Event → Severity
  | .function .. => .debug
  | _ => .warn

def message : Event → String
  | .version found expected =>
    "chunk version " ++ hexWord 2 found.toNat ++ " differs from " ++ hexWord 2 expected.toNat
      ++ ", decoding anyway"
  | .tolerated m => (Fault.selfCheckMismatch m).message ++ ", decoding anyway"
  | .undecodable charset bytes => charset.name ++ " decode error in " ++ hexBytes bytes
  | .function source line depth tally =>
    "chunk " ++ source ++ ":" ++ integer line ++ " depth=" ++ decimal depth
      ++ " locals=" ++ decimal tally.locals ++ " strings=" ++ decimal tally.strings
      ++ " numbers=" ++ decimal tally.numbers ++ " functions=" ++ decimal tally.functions
      ++ " instructions=" ++ decimal tally.instructions
  | .trailing count offset =>
    "ignoring " ++ decimal count ++ " trailing bytes at offset " ++ hexWord 0 offset

def record (e : Event) : Record := ⟨e.severity, e.message⟩

end Event

end LuaChunk
