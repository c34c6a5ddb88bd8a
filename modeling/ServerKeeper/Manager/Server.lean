import ServerKeeper.Lifecycle
import ServerKeeper.Manager

namespace ServerKeeper

open Toolchain (Machine)

def Toolchain.Action.outcome {α : Type} (a : Toolchain.Action α) (s : Machine) :
    Except InstallError α × Machine :=
  match a s with
  | .ok x s => (.ok x, s)
  | .error e s => (.error e, s)

def Manager.server (m : Manager) : ManagedServer Machine where
  name := m.config.serverName
  needsInstall := fun s => (m.needsInstall s.files, s)
  install := Toolchain.Action.outcome m.install

end ServerKeeper
