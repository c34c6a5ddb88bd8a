import ServerKeeper.Json.Tagged
import ServerKeeper.Json.Printer
import ServerKeeper.InstallError

namespace ServerKeeper.InstallError

open Json (Slot oneField twoFields)

def variantTitle (name : String) : String := "struct variant InstallError::" ++ name

def choice : Json.Choice InstallError where
  title := "internally tagged enum InstallError"
  key := "type"
  variants :=
    [("ToolchainNotFound",
      oneField (variantTitle "ToolchainNotFound") (.text "toolchain") toolchainNotFound),
     ("VersionProbeFailed",
      twoFields (variantTitle "VersionProbeFailed") (.text "stderr") (.int32? "exit_code")
        versionProbeFailed),
     ("InstallCommandFailed",
      twoFields (variantTitle "InstallCommandFailed") (.text "stderr") (.int32? "exit_code")
        installCommandFailed),
     ("MarkerWriteFailed",
      twoFields (variantTitle "MarkerWriteFailed") (.text "path") (.text "message")
        markerWriteFailed),
     ("Io", oneField (variantTitle "Io") (.text "message") io)]

def fromJson? (text : String) : Except Json.Error InstallError :=
  Json.readText (choice.read Json.maxDepth) text

def exitCodeJson : Option Int32 → Json.Value
  | some code => .number (.integer code.toInt)
  | none => .null

def kind : InstallError → String
  | toolchainNotFound .. => "ToolchainNotFound"
  | versionProbeFailed .. => "VersionProbeFailed"
  | installCommandFailed .. => "InstallCommandFailed"
  | markerWriteFailed .. => "MarkerWriteFailed"
  | io .. => "Io"

def fieldsJson : InstallError → List (String × Json.Value)
  | toolchainNotFound toolchain => [("toolchain", .string toolchain)]
  | versionProbeFailed stderr code =>
    [("stderr", .string stderr), ("exit_code", exitCodeJson code)]
  | installCommandFailed stderr code =>
    [("stderr", .string stderr), ("exit_code", exitCodeJson code)]
  | markerWriteFailed path reason => [("path", .string path), ("message", .string reason)]
  | io reason => [("message", .string reason)]

def toJson (e : InstallError) : Json.Value :=
  .object (("type", .string e.kind) :: e.fieldsJson)

end ServerKeeper.InstallError
