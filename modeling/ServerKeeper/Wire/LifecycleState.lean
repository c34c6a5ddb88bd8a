import ServerKeeper.Json.Tagged
import ServerKeeper.Json.Printer
import ServerKeeper.Lifecycle

namespace ServerKeeper.LifecycleState

def choice : Json.Choice LifecycleState where
  title := "internally tagged enum LifecycleState"
  key := "state"
  variants :=
    [("notChecked", Json.unitVariant notChecked),
     ("needsInstall", Json.unitVariant needsInstall),
     ("upToDate", Json.unitVariant upToDate),
     ("error", Json.oneField "struct variant LifecycleState::Error" (.text "message") error)]

def fromJson? (text : String) : Except Json.Error LifecycleState :=
  Json.readText (choice.read Json.maxDepth) text

def tag : LifecycleState → String
  | notChecked => "notChecked"
  | needsInstall => "needsInstall"
  | upToDate => "upToDate"
  | error _ => "error"

def toJson (s : LifecycleState) : Json.Value :=
  .object (("state", .string s.tag) ::
    match s with
    | error message => [("message", .string message)]
    | _ => [])

end ServerKeeper.LifecycleState
