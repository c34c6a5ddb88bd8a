import ServerKeeper.Json.Record
import ServerKeeper.Json.Printer
import ServerKeeper.Settings

namespace ServerKeeper

namespace ServerSettings

structure Given where
  manageBinary : Option Bool

def record : Json.Record Given ServerSettings where
  title := "struct GoplsSettings"
  fields :=
    [.of "manageGoplsBinary" Given.manageBinary (fun g a => { g with manageBinary := some a })
      Json.readBool true]
  start := ⟨none⟩
  finish := fun g => .ok ⟨g.manageBinary.getD ServerSettings.default.manageBinary⟩

def fromJson? (text : String) : Except Json.Error ServerSettings :=
  Json.readText (record.read Json.maxDepth) text

def toJson (s : ServerSettings) : Json.Value :=
  .object [("manageGoplsBinary", .boolean s.manageBinary)]

end ServerSettings

namespace Settings

structure Given where
  command : Option (Option (List String))
  server : Option ServerSettings

def record : Json.Record Given Settings where
  title := "struct ServerSettings"
  fields :=
    [.of "command" Given.command (fun g a => { g with command := some a })
      (Json.readOption (Json.readList Json.readString)) true,
     .of "settings" Given.server (fun g a => { g with server := some a })
      ServerSettings.record.read true]
  start := ⟨none, none⟩
  finish := fun g => .ok ⟨g.command.getD none, g.server.getD ServerSettings.default⟩

def fromJson? (text : String) : Except Json.Error Settings :=
  Json.readText (record.read Json.maxDepth) text

def toJson (s : Settings) : Json.Value :=
  .object
    [("command", match s.command with
      | some words => .list (words.map .string)
      | none => .null),
     ("settings", s.server.toJson)]

end Settings

end ServerKeeper
