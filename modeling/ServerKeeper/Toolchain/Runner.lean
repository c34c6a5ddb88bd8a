import ServerKeeper.FileTree.Basic
import ServerKeeper.InstallError
import ServerKeeper.Toolchain.Environment

namespace ServerKeeper.Toolchain

structure Command where
  program : String
  arguments : List String
  bindings : List (String × String)
  deriving DecidableEq, Repr

/-- What a process left behind. One that a signal ended has no exit code. -/
structure Output where
  stdout : String
  stderr : String
  exitCode : Option Int32
  deriving DecidableEq, Repr

def Output.succeeded (o : Output) : Bool := o.exitCode == some 0

/-- One question to a runner, with the files as they were when a command was to be run. -/
inductive Call
  | find (program : String)
  | run (command : Command) (files : FileTree)

structure Runner where
  /-- Finds a program on the search path, given the earlier calls. -/
  find : List Call → FileTree → String → Option String
  run : List Call → FileTree → Command → Except InstallError Output × FileTree

/-- The files, and the calls that a runner was asked so far, the oldest first. -/
structure Machine where
  files : FileTree
  calls : List Call

/-- A step that may fail. What it did before it failed stays done. -/
abbrev Action (α : Type) := EStateM InstallError Machine α

namespace Runner

def findProgram (r : Runner) (program : String) : Action (Option String) := fun m =>
  .ok (r.find m.calls m.files program) { m with calls := m.calls ++ [.find program] }

def runCommand (r : Runner) (c : Command) : Action Output := fun m =>
  let (result, files) := r.run m.calls m.files c
  let after : Machine := ⟨files, m.calls ++ [.run c m.files]⟩
  match result with
  | .ok output => .ok output after
  | .error e => .error e after

end Runner

end ServerKeeper.Toolchain
