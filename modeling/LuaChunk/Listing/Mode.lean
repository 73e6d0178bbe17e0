import LuaChunk.Listing.Plain
import LuaChunk.Listing.Structured
import LuaChunk.Naming

/-!
# Listing/Mode — the kinds of listing
-/

namespace LuaChunk

/-- The kinds of listing. -/
inductive Mode where
  /-- Commented text, one block per function. -/
  | debug
  /-- The tree as a YAML document. -/
  | yaml
  deriving DecidableEq, Repr, Inhabited

namespace Mode

def name : Mode → String
  | .debug => "debug"
  | .yaml => "yaml"

def label : Mode → String
  | .debug => "Debug"
  | .yaml => "Yaml"

def all : List Mode := [.debug, .yaml]

/-- Reads the name of a mode. -/
def read (s : String) : Except UnknownName Mode :=
  readName "listing mode" (fun n => all.find? fun m => m.name == n) s

/-- The listing of a file.  Only plain listings are indented. -/
def render (mode : Mode) (indent : Nat) (file : ChunkFile) : Except Fault String :=
  match mode with
  | .debug => Plain.render indent file
  | .yaml => Structured.render file

end Mode

end LuaChunk
