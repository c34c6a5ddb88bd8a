import ServerKeeper.Json.Record
import ServerKeeper.Json.Printer
import ServerKeeper.Status

namespace ServerKeeper.Status

structure Given where
  serverName : Option String
  installed : Option Bool
  installedVersion : Option (Option String)
  desiredVersion : Option String
  latestVersion : Option (Option String)
  updateAvailable : Option (Option Bool)
  binaryPath : Option String
  managed : Option Bool
  needsInstall : Option Bool

def Given.none : Given :=
  ⟨.none, .none, .none, .none, .none, .none, .none, .none, .none⟩

def require {α : Type} (name : String) : Option α → Except String α
  | some a => .ok a
  | none => .error name

def record : Json.Record Given Status where
  title := "struct ServerStatus"
  fields :=
    [.of "serverName" Given.serverName (fun g a => { g with serverName := some a })
      Json.readString false,
     .of "installed" Given.installed (fun g a => { g with installed := some a })
      Json.readBool false,
     .of "installedVersion" Given.installedVersion
      (fun g a => { g with installedVersion := some a }) (Json.readOption Json.readString) false,
     .of "desiredVersion" Given.desiredVersion (fun g a => { g with desiredVersion := some a })
      Json.readString false,
     .of "latestVersion" Given.latestVersion (fun g a => { g with latestVersion := some a })
      (Json.readOption Json.readString) false,
     .of "updateAvailable" Given.updateAvailable (fun g a => { g with updateAvailable := some a })
      (Json.readOption Json.readBool) false,
     .of "binPath" Given.binaryPath (fun g a => { g with binaryPath := some a })
      Json.readString false,
     .of "managed" Given.managed (fun g a => { g with managed := some a })
      Json.readBool false,
     .of "needsInstall" Given.needsInstall (fun g a => { g with needsInstall := some a })
      Json.readBool false]
  start := .none
  finish := fun g => do
    let serverName ← require "serverName" g.serverName
    let installed ← require "installed" g.installed
    let desiredVersion ← require "desiredVersion" g.desiredVersion
    let binaryPath ← require "binPath" g.binaryPath
    let managed ← require "managed" g.managed
    let needsInstall ← require "needsInstall" g.needsInstall
    .ok
      { serverName, installed, desiredVersion, binaryPath, managed, needsInstall
        installedVersion := g.installedVersion.getD .none
        latestVersion := g.latestVersion.getD .none
        updateAvailable := g.updateAvailable.getD .none }

def fromJson? (text : String) : Except Json.Error Status :=
  Json.readText (record.read Json.maxDepth) text

def textOrNull : Option String → Json.Value
  | some s => .string s
  | none => .null

def toJson (s : Status) : Json.Value :=
  .object
    [("serverName", .string s.serverName),
     ("installed", .boolean s.installed),
     ("installedVersion", textOrNull s.installedVersion),
     ("desiredVersion", .string s.desiredVersion),
     ("latestVersion", textOrNull s.latestVersion),
     ("updateAvailable", match s.updateAvailable with
      | some b => .boolean b
      | none => .null),
     ("binPath", .string s.binaryPath),
     ("managed", .boolean s.managed),
     ("needsInstall", .boolean s.needsInstall)]

end ServerKeeper.Status
