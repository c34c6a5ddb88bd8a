import ServerKeeper.Lifecycle

namespace ServerKeeper

structure Rehearsal where
  needs : List Bool
  installs : List (Option InstallError)
  asked : Nat
  installed : Nat

namespace Rehearsal

def nth? {α : Type} (xs : List α) (n : Nat) : Option α :=
  xs[n]?.or xs.getLast?

def server (name : String) : ManagedServer Rehearsal where
  name := name
  needsInstall := fun r => ((nth? r.needs r.asked).getD false, { r with asked := r.asked + 1 })
  install := fun r =>
    let result :=
      match (nth? r.installs r.installed).join with
      | none => .ok ()
      | some e => .error e
    (result, { r with installed := r.installed + 1 })

end Rehearsal

end ServerKeeper
