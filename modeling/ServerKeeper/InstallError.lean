namespace ServerKeeper

inductive InstallError
  | toolchainNotFound (toolchain : String)
  | versionProbeFailed (stderr : String) (exitCode : Option Int32)
  | installCommandFailed (stderr : String) (exitCode : Option Int32)
  | markerWriteFailed (path reason : String)
  | io (reason : String)
  deriving DecidableEq, Repr

namespace InstallError

def showExitCode : Option Int32 → String
  | some code => "Some(" ++ toString code.toInt ++ ")"
  | none => "None"

def message : InstallError → String
  | toolchainNotFound toolchain => toolchain ++ " binary not found in $PATH"
  | versionProbeFailed stderr code =>
    "toolchain version probe failed (exit code " ++ showExitCode code ++ "): " ++ stderr
  | installCommandFailed stderr code =>
    "installation failed (exit code " ++ showExitCode code ++ "): " ++ stderr
  | markerWriteFailed path reason =>
    "failed to write version marker '" ++ path ++ "': " ++ reason
  | io reason => "IO error: " ++ reason

end InstallError

end ServerKeeper
