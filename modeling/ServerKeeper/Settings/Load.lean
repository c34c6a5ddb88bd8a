import ServerKeeper.FileTree.Access
import ServerKeeper.FileTree.Fault
import ServerKeeper.Wire.Settings

namespace ServerKeeper

inductive SettingsError
  | unreadable (path : String) (fault : FileFault)
  | malformed (origin : String) (error : Json.Error)

namespace SettingsError

def message : SettingsError → String
  | unreadable path fault => "failed to read settings file '" ++ path ++ "': " ++ fault.message
  | malformed origin error => "failed to parse settings file '" ++ origin ++ "': " ++ error.message

def reason : SettingsError → String
  | unreadable _ fault => fault.message
  | malformed _ error => error.message

end SettingsError

def Settings.parse (text origin : String) : Except SettingsError Settings :=
  match Settings.fromJson? text with
  | .ok s => .ok s
  | .error e => .error (.malformed origin e)

def Settings.load (files : FileTree) (path : String) : Except SettingsError Settings :=
  match files.readText path with
  | .error fault => .error (.unreadable path fault)
  | .ok text => Settings.parse text path

end ServerKeeper
