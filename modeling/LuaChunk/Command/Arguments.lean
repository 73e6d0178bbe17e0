import LuaChunk.Settings.Basic

/-!
# Command/Arguments — reading the command line

    [options] disasm [options] SOURCE DEST

Options have long names, and some a letter; letters may be run together.  An option that takes a
value has it attached or as the next argument, which must not itself look like an option.  Arguments
are taken in order: the first one that is wrong, or that asks for the version or for help, decides.
-/

namespace LuaChunk.Command

/-- The options. -/
inductive Flag where
  | verbose
  | config
  | mode
  | charset
  | maxDepth
  | indent
  | lenient
  | help
  | version
  deriving DecidableEq, Repr

namespace Flag

/-- Whether an option takes a value. -/
def takesValue : Flag → Bool
  | .config | .mode | .charset | .maxDepth | .indent => true
  | _ => false

end Flag

/-- The options that a place on the command line knows, by long name and by letter. -/
structure Vocabulary where
  long : List (String × Flag)
  short : List (Char × Flag)

/-- The options before the subcommand. -/
def outer : Vocabulary where
  long := [("verbose", .verbose), ("config", .config), ("help", .help), ("version", .version)]
  short := [('v', .verbose), ('h', .help), ('V', .version)]

/-- The options after it. -/
def inner : Vocabulary where
  long := [("mode", .mode), ("encoding", .charset), ("max-depth", .maxDepth), ("indent", .indent),
    ("lenient-self-check", .lenient), ("verbose", .verbose), ("config", .config), ("help", .help)]
  short := [('m', .mode), ('e', .charset), ('v', .verbose), ('h', .help)]

/-- What an argument says. -/
inductive Item where
  /-- An option; the value is empty for one that takes none. -/
  | option (flag : Flag) (value : String)
  /-- An argument that is no option. -/
  | word (s : String)
  /-- An argument that is wrong. -/
  | bad
  deriving DecidableEq, Repr

/-! ## Single arguments -/

/-- Whether an argument looks like an option. -/
def looksLikeOption (s : String) : Bool :=
  match s.toList with
  | '-' :: _ :: _ => true
  | _ => false

/-- An option whose value is the next argument. -/
def detached (flag : Flag) : List String → List Item × List String
  | [] => ([.bad], [])
  | s :: rest => if looksLikeOption s then ([.bad], rest) else ([.option flag s], rest)

/-- Letters that are run together.  What follows the letter of an option that takes a value is the
value, after an equals sign or directly. -/
def letters (known : List (Char × Flag)) : List Char → List String → List Item × List String
  | [], rest => ([], rest)
  | c :: cs, rest =>
    match known.lookup c with
    | none => ([.bad], rest)
    | some flag =>
      if flag.takesValue then
        match cs with
        | [] => detached flag rest
        | '=' :: value => ([.option flag (String.ofList value)], rest)
        | value => ([.option flag (String.ofList value)], rest)
      else
        let (more, rest) := letters known cs rest
        (.option flag "" :: more, rest)

/-- A long name, possibly with a value attached. -/
def longName (known : List (String × Flag)) (cs : List Char) (rest : List String) :
    List Item × List String :=
  match known.lookup (String.ofList (cs.takeWhile (· != '='))), cs.dropWhile (· != '=') with
  | none, _ => ([.bad], rest)
  | some flag, [] => if flag.takesValue then detached flag rest else ([.option flag ""], rest)
  | some flag, _ :: value =>
    if flag.takesValue then ([.option flag (String.ofList value)], rest) else ([.bad], rest)

/-- What an argument says, and the arguments after it and its value. -/
def read (v : Vocabulary) (s : String) (rest : List String) : List Item × List String :=
  match s.toList with
  | '-' :: '-' :: cs => longName v.long cs rest
  | '-' :: c :: cs => letters v.short (c :: cs) rest
  | _ => ([.word s], rest)

/-! ## Requests -/

/-- A run of the disassembler. -/
structure Job where
  verbosity : Nat
  config : Option String
  source : String
  dest : String
  /-- The settings made on the command line. -/
  changes : List Change
  deriving DecidableEq, Repr

/-- What the command line asks for. -/
inductive Request where
  | version
  | help
  | disassemble (job : Job)
  /-- Nothing that makes sense. -/
  | usage
  deriving DecidableEq, Repr

/-- What has been given so far. -/
structure Given where
  verbosity : Nat := 0
  config : Option String := none
  mode : Option Mode := none
  charset : Option Charset := none
  maxDepth : Option Nat := none
  indent : Option Nat := none
  lenient : Bool := false
  words : List String := []
  deriving DecidableEq, Repr

/-- A number of 64 bits, with or without a plus sign. -/
def number? (s : String) : Option Nat := do
  let digits := match s.toList with
    | '+' :: cs => cs
    | cs => cs
  let n ← if digits.all Char.isDigit then readDigits? 10 digits else none
  if n < 1 <<< 64 then some n else none

/-- A value that has not been given before. -/
def once {α : Type} (before : Option α) (value : Option α) : Option (Option α) :=
  match before, value with
  | none, some a => some (some a)
  | _, _ => none

/-- A path must not be empty. -/
def path? (s : String) : Option String := if s.isEmpty then none else some s

namespace Given

/-- Takes note of an option; asking for help or the version is not one to note. -/
def note (g : Given) (flag : Flag) (value : String) : Option Given :=
  match flag with
  | .verbose => some { g with verbosity := min 255 (g.verbosity + 1) }
  | .config => (once g.config (path? value)).map fun config => { g with config }
  | .mode => (once g.mode (Mode.read value).toOption).map fun mode => { g with mode }
  | .charset => (once g.charset (Charset.read value).toOption).map fun charset => { g with charset }
  | .maxDepth => (once g.maxDepth (number? value)).map fun maxDepth => { g with maxDepth }
  | .indent => (once g.indent (number? value)).map fun indent => { g with indent }
  | .lenient => if g.lenient then none else some { g with lenient := true }
  | .help | .version => none

/-- Takes note of a path, of which there are two. -/
def noteWord (g : Given) (s : String) : Option Given := do
  let p ← path? s
  if g.words.length < 2 then some { g with words := g.words ++ [p] } else none

/-- The settings that were given. -/
def changes (g : Given) : List Change :=
  (g.mode.map Change.mode).toList ++ (g.charset.map Change.charset).toList
    ++ (g.maxDepth.map Change.maxDepth).toList ++ (g.indent.map Change.indent).toList
    ++ if g.lenient then [.strictness .lenient] else []

/-- Takes note of what an argument says, unless that decides already. -/
def noteAll (g : Given) : List Item → Except Request Given
  | [] => .ok g
  | .bad :: _ => .error .usage
  | .option .help _ :: _ => .error .help
  | .option .version _ :: _ => .error .version
  | .option flag value :: items =>
    match g.note flag value with
    | some g => g.noteAll items
    | none => .error .usage
  | .word s :: items =>
    match g.noteWord s with
    | some g => g.noteAll items
    | none => .error .usage

end Given

/-- The job, once all arguments are read.  What is given on both sides of the subcommand is taken
from behind it. -/
def finish (before g : Given) : Request :=
  match g.words with
  | [source, dest] =>
    .disassemble {
      verbosity := if g.verbosity = 0 then before.verbosity else g.verbosity
      config := g.config.or before.config
      source, dest
      changes := g.changes }
  | _ => .usage

/-- The arguments after the subcommand.  Two dashes make the rest paths. -/
def readInner (before : Given) : Nat → Given → List String → Request
  | 0, _, _ => .usage
  | _, g, [] => finish before g
  | n + 1, g, s :: rest =>
    if s = "--" then
      match g.noteAll (rest.map .word) with
      | .ok g => finish before g
      | .error r => r
    else
      let (items, rest) := read inner s rest
      match g.noteAll items with
      | .ok g => readInner before n g rest
      | .error r => r

/-- The arguments after the word `help`. -/
def readHelp : List String → Request
  | [] | ["disasm"] | ["help"] => .help
  | _ => .usage

/-- The arguments up to the subcommand. -/
def readOuter : Nat → Given → List String → Request
  | 0, _, _ => .usage
  | _, _, [] => .usage
  | n + 1, g, s :: rest =>
    if s = "--" then .usage
    else match read outer s rest with
      | ([.word w], rest) =>
        if w = "disasm" then readInner g (rest.length + 1) {} rest
        else if w = "help" then readHelp rest
        else .usage
      | (items, rest) =>
        match g.noteAll items with
        | .ok g => readOuter n g rest
        | .error r => r

/-- What a command line asks for. -/
def Request.ofArguments (args : List String) : Request := readOuter (args.length + 1) {} args

end LuaChunk.Command
