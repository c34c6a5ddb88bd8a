import ServerKeeper.Path
import ServerKeeper.Template
import ServerKeeper.Settings

namespace ServerKeeper

structure Config where
  serverName : String
  packageName : String
  storageRoot : String
  desiredVersion : String
  toolchain : String
  moduleTemplate : String
  command : Option String
  managed : Bool
  deriving DecidableEq, Repr

namespace Config

def defaultCommand : String := "$\x7bstorage_path\x7d/LSP-gopls/bin/gopls"

/-- The configuration of the server under a storage root, with nothing set by the user. -/
def ofRoot (storageRoot : String) : Config where
  serverName := "gopls"
  packageName := "LSP-gopls"
  storageRoot := storageRoot
  desiredVersion := "0.11.0"
  toolchain := "go"
  moduleTemplate := "golang.org/x/tools/gopls@v\x7btag\x7d"
  command := none
  managed := true

def baseDir (c : Config) : String :=
  Path.join c.storageRoot c.packageName

def markerPath (c : Config) : String :=
  Path.join c.baseDir "VERSION"

def modulePath (c : Config) : String :=
  Template.fillTag c.moduleTemplate c.desiredVersion

/-- Where the binary is looked for: where the user says, or else the default place. -/
def binaryPath (c : Config) : String :=
  Template.expand [("storage_path", c.storageRoot)] (c.command.getD defaultCommand)

def managedBinaryPath (c : Config) : String :=
  Path.join (Path.join c.baseDir "bin") c.serverName

/-- Takes over the user's settings: a command whose first word is not blank, and whether the binary
is managed. -/
def withSettings (c : Config) (s : Settings) : Config :=
  { c with
    command :=
      match s.command.bind List.head? with
      | some word => if Text.isBlankText word then c.command else some word
      | none => c.command
    managed := s.server.manageBinary }

end Config

end ServerKeeper
