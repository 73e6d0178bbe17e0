import LuaChunk.Settings.Basic
import LuaChunk.Toml.Document

/-!
# Settings/File — settings files

A settings file is a TOML document whose keys name settings; those it leaves out keep their built-in
values, and keys that name no setting are ignored.  Where a record of settings is expected, a list
of values in the order of the record does as well.  A choice is a name, or a table whose key is the
name and whose value is empty.
-/

namespace LuaChunk.Settings

/-- The fields of a record: those of a table, or of a list by position.  A date has none. -/
def fields? (names : List String) : Toml.Value → Option Toml.Entries
  | .table _ entries => some entries
  | .array items | .tables items => some (names.zip items)
  | .datetime => some []
  | _ => none

/-- A field's value, or the given one if the field is absent. -/
def field {α : Type} (fields : Toml.Entries) (name : String) (read : Toml.Value → Option α)
    (absent : α) : Option α :=
  match fields.lookup name with
  | none => some absent
  | some v => read v

/-- A natural number. -/
def natural? : Toml.Value → Option Nat
  | .integer i => if 0 ≤ i then some i.toNat else none
  | _ => none

/-- A value without content. -/
def isEmpty : Toml.Value → Bool
  | .array [] | .table _ [] | .tables [] => true
  | _ => false

/-- A choice by name, or by the only key of a table. -/
def choice? {α : Type} (ofName : String → Option α) : Toml.Value → Option α
  | .string s => ofName s
  | .table _ [(name, v)] => if isEmpty v then ofName name else none
  | _ => none

/-- A choice whose names must be given exactly. -/
def exactly {α : Type} (all : List α) (name : α → String) (s : String) : Option α :=
  all.find? fun a => name a == s

/-- How much is shown. -/
def threshold? (absent : Threshold) (v : Toml.Value) : Option Threshold := do
  let fs ← fields? ["level_filter"] v
  field fs "level_filter" (choice? Threshold.ofName?) absent

/-- How files are read. -/
def load? (absent : LoadOptions) (v : Toml.Value) : Option LoadOptions := do
  let fs ← fields? ["max_depth", "max_input_len", "self_check", "encoding"] v
  return {
    maxDepth := ← field fs "max_depth" natural? absent.maxDepth
    maxLength := ← field fs "max_input_len" natural? absent.maxLength
    strictness := ← field fs "self_check" (choice? (exactly Strictness.all Strictness.name))
      absent.strictness
    charset := ← field fs "encoding" (choice? (exactly Charset.all Charset.name)) absent.charset }

/-- The settings of a document. -/
def ofEntries? (fs : Toml.Entries) : Option Settings := do
  return {
    threshold := ← field fs "logger" (threshold? default.threshold) default.threshold
    mode := ← field fs "mode" (choice? (exactly Mode.all Mode.name)) default.mode
    indent := ← field fs "indent_width" natural? default.indent
    load := ← field fs "parse" (load? default.load) default.load }

/-- The settings of a file's text, if it is a well-formed document of sensible values. -/
def ofText? (text : String) : Option Settings := do
  ofEntries? (← Toml.parse? text)

end LuaChunk.Settings
