namespace ServerKeeper

structure Status where
  serverName : String
  installed : Bool
  installedVersion : Option String
  desiredVersion : String
  latestVersion : Option String
  /-- Whether a later stable release exists, if a listing was given. -/
  updateAvailable : Option Bool
  binaryPath : String
  managed : Bool
  needsInstall : Bool
  deriving DecidableEq, Repr

end ServerKeeper
