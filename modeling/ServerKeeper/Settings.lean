import ServerKeeper.Text.Basic

namespace ServerKeeper

structure ServerSettings where
  manageBinary : Bool
  deriving DecidableEq, Repr

def ServerSettings.default : ServerSettings := ⟨true⟩

structure Settings where
  command : Option (List String)
  server : ServerSettings
  deriving DecidableEq, Repr

end ServerKeeper
