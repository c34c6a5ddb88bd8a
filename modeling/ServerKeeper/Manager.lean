import ServerKeeper.Config
import ServerKeeper.FileTree.Access
import ServerKeeper.Release.Listing
import ServerKeeper.Status
import ServerKeeper.Toolchain.Invocation

namespace ServerKeeper

open Toolchain (Action Runner)

structure Manager where
  config : Config
  runner : Runner
  scratch : Toolchain.ScratchSource

namespace Manager

def isInstalled (m : Manager) (files : FileTree) : Bool :=
  files.isExecutable m.config.binaryPath

/-- The version that the marker names; a marker that cannot be read names none. -/
def installedVersion? (m : Manager) (files : FileTree) : Option String :=
  (files.readText m.config.markerPath).toOption

/-- Whether the managed binary is missing or the marker does not name the desired version. A server
that is not managed never needs an install. -/
def needsInstall (m : Manager) (files : FileTree) : Bool :=
  m.config.managed &&
    (!files.isExecutable m.config.managedBinaryPath ||
      m.installedVersion? files != some m.config.desiredVersion)

def findToolchain (m : Manager) : Action String := do
  match ← m.runner.findProgram m.config.toolchain with
  | some program => return program
  | none => throw (.toolchainNotFound m.config.toolchain)

def makeBaseDir (m : Manager) : Action Unit := fun s =>
  match s.files.makeDirectories m.config.baseDir with
  | (.ok (), files) => .ok () { s with files }
  | (.error fault, files) =>
    .error
      (.io ("Failed to create install directory '" ++ m.config.baseDir ++ "': " ++ fault.message))
      { s with files }

def writeMarker (m : Manager) : Action Unit := fun s =>
  match s.files.writeText m.config.markerPath m.config.desiredVersion with
  | .ok files => .ok () { s with files }
  | .error fault => .error (.markerWriteFailed m.config.markerPath fault.message) s

def install (m : Manager) : Action Unit := do
  let program ← m.findToolchain
  m.makeBaseDir
  let toolchain : Toolchain := ⟨m.runner, program, m.config.baseDir, m.scratch⟩
  let version ← toolchain.version
  toolchain.install (Toolchain.Verb.ofVersion version) m.config.modulePath
  -- last, so that an install that fails does not name its version
  m.writeMarker

def uninstall (m : Manager) : Action Unit := fun s =>
  match s.files.removeTree m.config.baseDir with
  | (.ok (), files) => .ok () { s with files }
  | (.error .notFound, files) => .ok () { s with files }
  | (.error fault, files) =>
    .error
      (.io ("Failed to remove install directory '" ++ m.config.baseDir ++ "': " ++ fault.message))
      { s with files }

/-- A report on the installation, compared with a listing of releases if there is one. -/
def status (m : Manager) (listing : Option (List Release)) (files : FileTree) : Status :=
  let latest := listing.bind Release.latest?
  { serverName := m.config.serverName
    installed := m.isInstalled files
    installedVersion := m.installedVersion? files
    desiredVersion := m.config.desiredVersion
    latestVersion := latest.map Release.Version.render
    updateAvailable := latest.map (Release.isNewer m.config.desiredVersion)
    binaryPath := m.config.binaryPath
    managed := m.config.managed
    needsInstall := m.needsInstall files }

end Manager

end ServerKeeper
