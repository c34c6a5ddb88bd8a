import ServerKeeper.Toolchain.Scratch
import ServerKeeper.Toolchain.Version

namespace ServerKeeper

structure Toolchain where
  runner : Toolchain.Runner
  program : String
  baseDir : String
  scratch : Toolchain.ScratchSource

namespace Toolchain

def bindings (baseDir : String) (scratch : Scratch) : List (String × String) :=
  ((Environment.ofBaseDir baseDir).set "GOTMPDIR" scratch.text).bindings

/-- Runs one subcommand with its own variables and its own scratch directory. -/
def runSubcommand (t : Toolchain) (arguments : List String) : Action Output :=
  withScratch t.scratch fun scratch =>
    t.runner.runCommand ⟨t.program, arguments, bindings t.baseDir scratch⟩

def version (t : Toolchain) : Action Version := do
  let output ← t.runSubcommand ["version"]
  if output.succeeded then return Version.parse output.stdout
  else throw (.versionProbeFailed output.stderr output.exitCode)

def install (t : Toolchain) (verb : Verb) (module : String) : Action Unit := do
  let output ← t.runSubcommand [verb.name, module]
  if output.succeeded then return ()
  else throw (.installCommandFailed output.stderr output.exitCode)

end Toolchain

end ServerKeeper
