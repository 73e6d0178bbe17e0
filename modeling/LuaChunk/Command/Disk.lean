/-!
# Command/Disk — files by path

A disk maps locations to contents.  A path is walked from the working directory or from the root,
name by name; every name but the last has to be a directory.  Directories are those that hold a
file, the root, and the working directory with those above it, of which nothing else is known.
-/

namespace LuaChunk.Command

/-- The names on the way from the working directory, or from the root, whose name is `/`.  The name
`..` stands only in front, for the directories above the working directory. -/
abbrev Location := List String

/-- The location above. -/
def above (l : Location) : Location :=
  match l.getLast? with
  | none => [".."]
  | some name => if name = ".." then l ++ [".."] else if name = "/" then l else l.dropLast

/-- What the system says when it cannot do something. -/
inductive SystemFault where
  | notFound
  | notDirectory
  | isDirectory
  | nameTooLong
  /-- Anything else, in the system's words. -/
  | other (text : String)
  deriving DecidableEq, Repr

namespace SystemFault

def message : SystemFault → String
  | .notFound => "No such file or directory (os error 2)"
  | .notDirectory => "Not a directory (os error 20)"
  | .isDirectory => "Is a directory (os error 21)"
  | .nameTooLong => "File name too long (os error 36)"
  | .other text => text

end SystemFault

/-- What a location holds. -/
inductive Content where
  | file (bytes : List UInt8)
  | directory
  deriving DecidableEq, Repr

namespace Content

/-- The size that the system reports; a directory takes a block. -/
def size : Content → Nat
  | .file bytes => bytes.length
  | .directory => 4096

end Content

/-- Files by location. -/
structure Disk where
  files : List (Location × List UInt8)
  /-- Devices that are always empty, whatever is written to them. -/
  sinks : List Location
  deriving DecidableEq, Repr

/-- Where a path leads; `slash` if it insists on a directory there. -/
structure Spot where
  location : Location
  slash : Bool
  deriving DecidableEq, Repr

namespace Disk

/-- A disk with some files, and the device that every system has. -/
def ofFiles (files : List (Location × List UInt8)) : Disk := ⟨files, [["/", "dev", "null"]]⟩

/-- Whether a location is a directory, given that it is no file. -/
def isDirectory (d : Disk) (l : Location) : Bool :=
  l.all (· == "..") || l == ["/"] || d.files.any (fun f => l.isPrefixOf f.1)
    || d.sinks.any fun s => l.isPrefixOf s

/-- What a location holds. -/
def content? (d : Disk) (l : Location) : Option Content :=
  match d.files.lookup l with
  | some bytes => some (.file bytes)
  | none =>
    if d.sinks.contains l then some (.file [])
    else if d.isDirectory l then some .directory
    else none

/-- Whether a location has a longer name than a directory can hold. -/
def isTooLong (l : Location) : Bool := 255 < (l.getLast?.getD "").utf8ByteSize

/-- Walks names from a directory.  The last name need not lead anywhere. -/
def walk (d : Disk) (l : Location) : List String → Except SystemFault Spot
  | [] => .ok ⟨l, false⟩
  | name :: rest =>
    if name = "" ∨ name = "." then d.walk l rest
    else if name = ".." then d.walk (above l) rest
    else if rest.all (· == "") then .ok ⟨l ++ [name], !rest.isEmpty⟩
    else if isTooLong [name] then .error .nameTooLong
    else
      match d.content? (l ++ [name]) with
      | some .directory => d.walk (l ++ [name]) rest
      | some (.file _) => .error .notDirectory
      | none => .error .notFound

/-- Where a path of less than 4096 bytes leads. -/
def resolve (d : Disk) (path : String) : Except SystemFault Spot :=
  if 4096 ≤ path.utf8ByteSize then .error .nameTooLong
  else d.walk (if path.startsWith "/" then ["/"] else []) (path.splitOn "/")

/-- What a path leads to. -/
def look (d : Disk) (path : String) : Except SystemFault Content := do
  let spot ← d.resolve path
  if isTooLong spot.location then .error .nameTooLong
  else match d.content? spot.location with
  | some .directory => .ok .directory
  | some (.file bytes) => if spot.slash then .error .notDirectory else .ok (.file bytes)
  | none => .error .notFound

/-- Makes a location hold a file. -/
def put (d : Disk) (l : Location) (bytes : List UInt8) : Disk :=
  { d with files := (l, bytes) :: d.files.filter fun f => f.1 != l }

/-- Writes a file, a new one or in the place of an old one. -/
def write (d : Disk) (path : String) (bytes : List UInt8) : Except SystemFault Disk := do
  let spot ← d.resolve path
  if spot.slash then .error .isDirectory
  else if isTooLong spot.location then .error .nameTooLong
  else if d.content? spot.location == some .directory then .error .isDirectory
  else if d.sinks.contains spot.location then .ok d
  else .ok (d.put spot.location bytes)

end Disk

end LuaChunk.Command
