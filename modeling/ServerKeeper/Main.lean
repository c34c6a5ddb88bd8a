import ServerKeeper.CommandLine.Snapshot
import ServerKeeper.Host.System
import ServerKeeper.Toolchain.Temporary

open ServerKeeper
open ServerKeeper.CommandLine

/-- What there is at a path. One that is too long or turns in links leads nowhere, as does one that
goes on behind a file; what may not be read ends the program. -/
def finding (path : String) : IO Finding := do
  let opened? ←
    try
      pure (some (← IO.FS.Handle.mk path .read))
    catch
      | .noFileOrDirectory .. | .inappropriateType .. | .invalidArgument .. => pure none
      | fault => throw fault
  let some opened := opened? | return .nothing
  try
    return .file (← opened.readBinToEnd)
  catch
    -- directories can be opened, but not read
    | .inappropriateType .. => return .directory
    | fault => throw fault

def carryOut (change : Change) : IO Unit := do
  match change with
  | .remove path =>
    match ← finding path with
    | .file _ => IO.FS.removeFile path
    | .directory => IO.FS.removeDirAll path
    | .nothing => return ()
  | .makeDirectory path => IO.FS.createDirAll path
  | .write path content executable =>
    IO.FS.writeBinFile path content
    if executable then
      IO.setAccessRights path ⟨⟨true, true, true⟩, ⟨true, false, true⟩, ⟨true, false, true⟩⟩

def inheritedVariables : IO (List (String × String)) := do
  let mut found := []
  for name in ["PATH", "HOME", "TMPDIR", "XDG_CACHE_HOME"] do
    if let some value ← IO.getEnv name then found := found ++ [(name, value)]
  return found

def main (arguments : List String) : IO UInt32 := do
  let bindings ← inheritedVariables
  let surroundings : Surroundings :=
    { home := bindings.lookup "HOME"
      cacheHome := bindings.lookup "XDG_CACHE_HOME"
      runner := Host.system bindings
      scratch := .under ((bindings.lookup "TMPDIR").getD "/tmp") }
  let paths := match Arguments.parse arguments with
    | .ok a => consulted surroundings (bindings.lookup "PATH") a
    | .error _ => []
  let before := snapshot (← paths.mapM fun path => return (path, ← finding path))
  let (outcome, machine) := CommandLine.run surroundings arguments ⟨before, []⟩
  for change in changes before machine.files do carryOut change
  (← IO.getStdout).putStr outcome.stdout
  (← IO.getStderr).putStr outcome.stderr
  return UInt32.ofNat outcome.exitCode
