import LuaChunk.Command.Arguments
import LuaChunk.Command.Disk
import LuaChunk.Command.Terminal
import LuaChunk.File.Image
import LuaChunk.Settings.File

/-!
# Command/Run — running the disassembler

A run settles its settings, reads the source, makes the listing, and only then writes it; so a run
that fails has written nothing.  What it reports on the way is filtered by the threshold of its
settings, which the environment may override.
-/

namespace LuaChunk.Command

/-- What a run can fail of. -/
inductive Failure where
  | readConfig (path : String) (cause : String)
  | invalidConfig (path : String)
  | stat (path : String) (cause : SystemFault)
  | refuse (path : String) (cause : Fault)
  | read (path : String) (cause : SystemFault)
  | parse (path : String) (cause : Fault)
  | render (mode : Mode) (cause : Fault)
  | write (path : String) (cause : SystemFault)
  deriving DecidableEq, Repr

namespace Failure

/-- What the run was doing. -/
def context : Failure → String
  | .readConfig path _ => "failed to read config " ++ path
  | .invalidConfig path => "invalid config " ++ path
  | .stat path _ => "failed to stat " ++ path
  | .refuse path _ => "refusing to read " ++ path
  | .read path _ => "failed to read " ++ path
  | .parse path _ => "failed to parse " ++ path
  | .render mode _ => "failed to render " ++ mode.name ++ " listing"
  | .write path _ => "failed to write " ++ path

/-- Why it failed, where there is more to say. -/
def cause? : Failure → Option String
  | .readConfig _ cause => some cause
  | .invalidConfig _ => none
  | .stat _ cause | .read _ cause | .write _ cause => some cause.message
  | .refuse _ cause | .parse _ cause | .render _ cause => some cause.message

/-- The overrun that broke a run off, if it was one. -/
def overrun? : Failure → Option Overrun
  | .render _ (.overrun o) => some o
  | _ => none

/-- What is said of a failure. -/
def message (f : Failure) : String :=
  match f.overrun?, f.cause? with
  | some o, _ => o.message
  | none, some cause => "Error: " ++ f.context ++ "\n\nCaused by:\n    " ++ cause
  | none, none => "Error: " ++ f.context

/-- The exit code of a failure. -/
def exit (f : Failure) : Nat := if f.overrun?.isSome then 101 else 1

end Failure

/-- How files are looked at. -/
abbrev Look := String → Except SystemFault Content

/-- The text of a settings file. -/
def configText (look : Look) (path : String) : Except Failure String :=
  match look path with
  | .error e => .error (.readConfig path e.message)
  | .ok .directory => .error (.readConfig path SystemFault.isDirectory.message)
  | .ok (.file bytes) =>
    if Charset.utf8.malformed bytes then
      .error (.readConfig path "stream did not contain valid UTF-8")
    else .ok (Charset.utf8.decode bytes)

/-- The settings before those of the command line. -/
def baseSettings (look : Look) : Option String → Except Failure Settings
  | none => .ok Settings.default
  | some path => do
    match Settings.ofText? (← configText look path) with
    | some s => .ok s
    | none => .error (.invalidConfig path)

/-- The settings of a job. -/
def settle (look : Look) (job : Job) : Except Failure Settings := do
  return (← baseSettings look job.config).overlay job.changes

/-- The bytes of the source, unless it is too large. -/
def sourceBytes (look : Look) (limit : Nat) (path : String) : Except Failure (List UInt8) :=
  match look path with
  | .error e => .error (.stat path e)
  | .ok content =>
    if limit < content.size then .error (.refuse path (.inputTooLarge content.size limit))
    else match content with
      | .directory => .error (.read path .isDirectory)
      | .file bytes => .ok bytes

/-- The record of a file that was read. -/
def readRecord (path : String) (file : ChunkFile) : Record :=
  ⟨.info, path ++ ": " ++ decimal file.main.count ++ " chunks, version "
    ++ hexWord 2 file.header.version.toNat⟩

/-- The listing of a file. -/
def listing (s : Settings) (file : ChunkFile) : Except Failure String :=
  (s.mode.render s.indent file).mapError (.render s.mode)

/-- Makes the listing of a source, with the records of doing so. -/
def prepare (look : Look) (s : Settings) (path : String) : Except Failure String × List Record :=
  match sourceBytes look s.load.maxLength path with
  | .error e => (.error e, [])
  | .ok bytes =>
    let (result, events) := ChunkFile.load s.load bytes
    match result with
    | .error e => (.error (.parse path e), events.map Event.record)
    | .ok file => (listing s file, events.map Event.record ++ [readRecord path file])

/-- The record of the settings of a run. -/
def settledRecord (s : Settings) : Record := ⟨.debug, s.display⟩

/-- The record of a listing that was written. -/
def wroteRecord (path : String) : Record := ⟨.info, "wrote " ++ path⟩

/-- What a run comes to. -/
structure Report where
  exit : Nat
  records : List Record
  stdout : String
  stderr : String
  deriving DecidableEq, Repr

namespace Report

/-- A run that failed. -/
def failed (records : List Record) (f : Failure) : Report := ⟨f.exit, records, "", f.message⟩

/-- A run that printed something. -/
def printed (text : String) : Report := ⟨0, [], text, ""⟩

/-- A command line that makes no sense. -/
def usage (text : String) : Report := ⟨2, [], "", text⟩

/-- What a run shows besides its output. -/
def pieces (r : Report) : List Terminal.Piece :=
  r.records.map (fun record => ⟨true, record.terminalText⟩)
    ++ if r.stderr.isEmpty then [] else [⟨false, r.stderr ++ "\n"⟩]

end Report

/-- The threshold of a run: a level that the environment names, or else the configured one, raised
once for each time the command line asks. -/
def threshold (environment : Option String) (s : Settings) (job : Job) : Threshold :=
  match environment.bind Threshold.ofName? with
  | some t => t
  | none => s.threshold.raise job.verbosity

/-- What a job comes to before anything is written. -/
inductive Plan where
  /-- There is nothing to write. -/
  | stop (report : Report)
  /-- A listing is to be written, and what follows if that fails or succeeds. -/
  | write (dest text : String) (failed : SystemFault → Report) (succeeded : Report)

/-- Plans a job. -/
def plan (look : Look) (environment : Option String) (job : Job) : Plan :=
  match settle look job with
  | .error e => .stop (.failed [] e)
  | .ok s =>
    let shown := List.filter (Record.shown (threshold environment s job))
    match prepare look s job.source with
    | (.error e, records) => .stop (.failed (shown (settledRecord s :: records)) e)
    | (.ok text, records) =>
      .write job.dest text
        (fun e => .failed (shown (settledRecord s :: records)) (.write job.dest e))
        ⟨0, shown (settledRecord s :: records ++ [wroteRecord job.dest]), "", ""⟩

/-- Runs a job. -/
def runJob (disk : Disk) (environment : Option String) (job : Job) : Report × Disk :=
  match plan disk.look environment job with
  | .stop report => (report, disk)
  | .write dest text failed succeeded =>
    match disk.write dest (textBytes text) with
    | .error e => (failed e, disk)
    | .ok disk => (succeeded, disk)

/-- The name and version of the program. -/
def versionText : String := "lua4-disasm 0.1.0\n"

/-- How the program is called. -/
def usageText : String :=
  "Usage: lua4-disasm [OPTIONS] disasm [OPTIONS] <SOURCE> <DEST>\n\n" ++
  "Options:\n" ++
  "  -v, --verbose              More log output, repeatable\n" ++
  "      --config <CONFIG>      TOML configuration file\n" ++
  "  -m, --mode <MODE>          Listing style: debug or yaml\n" ++
  "  -e, --encoding <ENCODING>  Encoding of string constants: utf8, sjis, gbk or latin1\n" ++
  "      --max-depth <DEPTH>    Deepest function nesting accepted\n" ++
  "      --indent <WIDTH>       Width of a level of nesting in debug listings\n" ++
  "      --lenient-self-check   Decode files whose self-check record does not match\n" ++
  "  -h, --help                 Print help\n" ++
  "  -V, --version              Print version\n"

/-- Runs a command line. -/
def run (disk : Disk) (environment : Option String) (args : List String) : Report × Disk :=
  match Request.ofArguments args with
  | .version => (.printed versionText, disk)
  | .help => (.printed usageText, disk)
  | .usage => (.usage usageText, disk)
  | .disassemble job => runJob disk environment job

end LuaChunk.Command
