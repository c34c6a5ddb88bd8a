import ServerKeeper.CommandLine.Arguments
import ServerKeeper.Manager.Server
import ServerKeeper.Settings.Load
import ServerKeeper.Wire.LifecycleState
import ServerKeeper.Wire.Release
import ServerKeeper.Wire.Status

namespace ServerKeeper.CommandLine

open Toolchain (Machine Runner)

structure Surroundings where
  /-- The home directory and the directory for caches, where they are known. -/
  home : Option String
  cacheHome : Option String
  runner : Runner
  scratch : Toolchain.ScratchSource

structure Outcome where
  exitCode : Nat
  stdout : String
  stderr : String
  deriving DecidableEq, Repr

inductive Failure
  | noCacheDirectory
  | settings (e : SettingsError)
  | forcedInstall (e : InstallError)
  | install (e : InstallError)
  | uninstall (e : InstallError)
  | releasesUnreadable (path : String) (fault : FileFault)
  | releasesMalformed (path : String) (error : Json.Error)

def Failure.chain : Failure → List String
  | noCacheDirectory => ["failed to resolve a cache directory; pass --storage-path"]
  | settings e => [e.message, e.reason]
  | forcedInstall e => ["forced install failed", e.message]
  | install e => ["install failed", e.message]
  | uninstall e => ["uninstall failed", e.message]
  | releasesUnreadable path fault =>
    ["failed to read releases file '" ++ path ++ "'", fault.message]
  | releasesMalformed path error =>
    ["failed to parse releases file '" ++ path ++ "'", error.message]

namespace Outcome

def ofFailure (f : Failure) : Outcome :=
  ⟨1, "", "error: " ++ ": ".intercalate f.chain ++ "\n"⟩

def printed (line : String) : Outcome := ⟨0, line ++ "\n", ""⟩

def silent : Outcome := ⟨0, "", ""⟩

def versionPage : Outcome := printed "gopls-manager 0.1.0"

def ofStop : Stop → Outcome
  | .version => versionPage
  | .help => silent
  | .usage => ⟨2, "", ""⟩

end Outcome

/-- The directory for caches, if it is absolute; else the one in the home directory. -/
def Surroundings.cacheDirectory? (s : Surroundings) : Option String :=
  match s.cacheHome.filter Path.isAbsolute with
  | some path => some path
  | none => (s.home.filter (· ≠ "")).map (Path.join · ".cache")

/-- The storage root of a call: the one given, or a place among the caches. -/
def storageRoot (s : Surroundings) (a : Arguments) : Except Failure String :=
  match a.storagePath with
  | some path => .ok path
  | none =>
    match s.cacheDirectory? with
    | some dir => .ok (Path.join dir "gopls-manager")
    | none => .error .noCacheDirectory

/-- The configuration of a call, with the settings file if one is named. -/
def config (s : Surroundings) (a : Arguments) (files : FileTree) : Except Failure Config := do
  let root ← storageRoot s a
  let c := Config.ofRoot root
  let c := { c with desiredVersion := a.serverVersion.getD c.desiredVersion }
  match a.settings with
  | none => .ok c
  | some path =>
    match Settings.load files path with
    | .ok settings => .ok (c.withSettings settings)
    | .error e => .error (.settings e)

def releases (path : Option String) (files : FileTree) :
    Except Failure (Option (List Release)) :=
  match path with
  | none => .ok none
  | some path =>
    match files.readText path with
    | .error fault => .error (.releasesUnreadable path fault)
    | .ok text =>
      match Release.listingFromJson? text with
      | .ok listing => .ok (some listing)
      | .error e => .error (.releasesMalformed path e)

def printState (s : LifecycleState) : Outcome := .printed (Json.compact s.toJson)

def check (m : Manager) (machine : Machine) : Outcome :=
  .printed (if m.needsInstall machine.files then "needs-install" else "up-to-date")

def forceInstall (m : Manager) (machine : Machine) : Outcome × Machine :=
  match m.install.outcome machine with
  | (.ok (), machine) => (printState .upToDate, machine)
  | (.error e, machine) => (.ofFailure (.forcedInstall e), machine)

def install (m : Manager) (machine : Machine) : Outcome × Machine :=
  match Lifecycle.activate m.server (.start machine) with
  | (.ok state, life) => (printState state, life.server)
  | (.error e, life) => (.ofFailure (.install e), life.server)

def status (m : Manager) (path : Option String) (machine : Machine) : Outcome :=
  match releases path machine.files with
  | .ok listing => .printed (Json.pretty (m.status listing machine.files).toJson)
  | .error f => .ofFailure f

def uninstall (m : Manager) (machine : Machine) : Outcome × Machine :=
  match m.uninstall.outcome machine with
  | (.ok (), machine) => (.silent, machine)
  | (.error e, machine) => (.ofFailure (.uninstall e), machine)

def execute (s : Surroundings) (a : Arguments) (machine : Machine) : Outcome × Machine :=
  match config s a machine.files with
  | .error f => (.ofFailure f, machine)
  | .ok c =>
    let m : Manager := ⟨c, s.runner, s.scratch⟩
    match a.subcommand with
    | .check => (check m machine, machine)
    | .install => if a.force then forceInstall m machine else install m machine
    | .status => (status m a.releases machine, machine)
    | .uninstall => uninstall m machine

def run (s : Surroundings) (texts : List String) (machine : Machine) : Outcome × Machine :=
  match Arguments.parse texts with
  | .error stop => (.ofStop stop, machine)
  | .ok a => execute s a machine

end ServerKeeper.CommandLine
