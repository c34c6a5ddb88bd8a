import ServerKeeper.InstallError

namespace ServerKeeper

inductive LifecycleState
  | notChecked
  | needsInstall
  | upToDate
  | error (message : String)
  deriving DecidableEq, Repr

/-- A server whose binary is managed. `σ` is what its answers depend on. -/
structure ManagedServer (σ : Type) where
  name : String
  needsInstall : σ → Bool × σ
  install : σ → Except InstallError Unit × σ

structure Lifecycle (σ : Type) where
  server : σ
  state : LifecycleState
  events : List (String × LifecycleState)

namespace Lifecycle

variable {σ : Type}

def start (server : σ) : Lifecycle σ := ⟨server, .notChecked, []⟩

def transition (s : ManagedServer σ) (l : Lifecycle σ) (state : LifecycleState) : Lifecycle σ :=
  { l with state, events := l.events ++ [(s.name, state)] }

def check (s : ManagedServer σ) (l : Lifecycle σ) : LifecycleState × Lifecycle σ :=
  let (needed, server) := s.needsInstall l.server
  let next := if needed then .needsInstall else .upToDate
  (next, transition s { l with server, state := .notChecked } next)

/-- Checks, and installs if that is needed. A failed install is not tried again. -/
def activate (s : ManagedServer σ) (l : Lifecycle σ) :
    Except InstallError LifecycleState × Lifecycle σ :=
  let (found, l) := check s l
  if found = .upToDate then (.ok .upToDate, l)
  else
    let (result, server) := s.install l.server
    let l := { l with server }
    match result with
    | .ok () => (.ok .upToDate, transition s l .upToDate)
    | .error e => (.error e, transition s l (.error e.message))

end Lifecycle

end ServerKeeper
