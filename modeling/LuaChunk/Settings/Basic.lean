import LuaChunk.Listing.Mode

/-!
# Settings/Basic — everything a run depends on besides its files

Settings start from built-in values, are overlaid by a settings file, and then by the command line.
Each overlay is a list of **changes**, applied in order; a change touches one setting only.
-/

namespace LuaChunk

/-- The settings of a run. -/
structure Settings where
  threshold : Threshold
  mode : Mode
  indent : Nat
  load : LoadOptions
  deriving DecidableEq, Repr

/-- A change of one setting. -/
inductive Change where
  | mode (mode : Mode)
  | indent (width : Nat)
  | charset (charset : Charset)
  | maxDepth (depth : Nat)
  | strictness (strictness : Strictness)
  deriving DecidableEq, Repr

namespace Settings

/-- The built-in settings. -/
def default : Settings := ⟨.warn, .debug, Plain.defaultIndent, LoadOptions.default⟩

/-- Makes a change. -/
def change (s : Settings) : Change → Settings
  | .mode mode => { s with mode }
  | .indent width => { s with indent := width }
  | .charset charset => { s with load := { s.load with charset } }
  | .maxDepth depth => { s with load := { s.load with maxDepth := depth } }
  | .strictness strictness => { s with load := { s.load with strictness } }

/-- Makes changes in order. -/
def overlay (s : Settings) (changes : List Change) : Settings := changes.foldl change s

/-- Settings on one line. -/
def display (s : Settings) : String :=
  "DisasmConfig \x7b logger: LoggerConfig \x7b level_filter: " ++ s.threshold.label
    ++ " \x7d, mode: " ++ s.mode.label ++ ", indent_width: " ++ decimal s.indent
    ++ ", parse: ParseOptions \x7b max_depth: " ++ decimal s.load.maxDepth
    ++ ", max_input_len: " ++ decimal s.load.maxLength
    ++ ", self_check: " ++ s.load.strictness.label
    ++ ", encoding: " ++ s.load.charset.label ++ " \x7d \x7d"

end Settings

end LuaChunk
