import LuaChunk.Command.Run

/-!
# Main — the command line program

Looks at the files that a job names, hands them to the pure run, and carries out what it decides.
-/

namespace LuaChunk.Command

/-- The fault that an error of the system stands for. -/
def systemFault : IO.Error → SystemFault
  | .noFileOrDirectory .. | .noSuchThing .. => .notFound
  | .inappropriateType _ code _ => if code = 20 ∨ code = -20 then .notDirectory else .isDirectory
  | e => .other (toString e)

/-- Looks at a path. -/
def lookAt (path : String) : IO (Except SystemFault Content) := do
  try
    return .ok (.file (← IO.FS.readBinFile path).toList)
  catch e =>
    match systemFault e with
    | .isDirectory => return .ok .directory
    | fault => return .error fault

/-- Looks at some paths. -/
def lookAll : List String → IO (List (String × Except SystemFault Content))
  | [] => return []
  | path :: paths => do return (path, ← lookAt path) :: (← lookAll paths)

/-- Writes a listing. -/
def writeTo (path text : String) : IO (Except SystemFault Unit) := do
  try
    IO.FS.writeFile path text
    return .ok ()
  catch e => return .error (systemFault e)

/-- Runs a job on the files of the system. -/
def perform (environment : Option String) (job : Job) : IO Report := do
  let seen ← lookAll (job.source :: job.config.toList)
  match plan (fun path => (seen.lookup path).getD (.error .notFound)) environment job with
  | .stop report => return report
  | .write dest text failed succeeded =>
    match ← writeTo dest text with
    | .error e => return failed e
    | .ok () => return succeeded

/-- Shows what a run reports. -/
def showReport (r : Report) : IO UInt32 := do
  for piece in r.pieces do
    IO.eprint piece.text
  IO.print r.stdout
  return UInt32.ofNat r.exit

end LuaChunk.Command

open LuaChunk.Command in
def main (args : List String) : IO UInt32 := do
  match Request.ofArguments args with
  | .disassemble job => showReport (← perform (← IO.getEnv "RUST_LOG") job)
  | _ => showReport (run (Disk.ofFiles []) none args).1
