import ServerKeeper.Proofs.Lifecycle
import ServerKeeper.Proofs.Manager.Session

namespace ServerKeeper

open Toolchain (Machine)

namespace Request

def asks : Request → Bool
  | .install | .uninstall | .adjust .. => false
  | _ => true

def reports (name : String) : Request → List (String × LifecycleState)
  | .check | .activate => [(name, .upToDate)]
  | _ => []

end Request

def Answer.IsUpToDate : Answer → Prop
  | .needed answer => answer = false
  | .report status => status.needsInstall = false
  | .state now => now = .upToDate
  | .activated result => result = .ok .upToDate
  | _ => True

namespace Session

/-- A request finds the server up to date, tells the host so if it is one to the life, and changes
neither the files nor what the runner was asked. -/
structure FindsUpToDate (se : Session) (request : Request) : Prop where
  answer : (se.step request).1.IsUpToDate
  manager : (se.step request).2.manager = se.manager
  server : (se.step request).2.life.server = se.life.server
  events : (se.step request).2.life.events =
    se.life.events ++ request.reports se.manager.config.serverName

variable {se : Session} {request : Request}

theorem findsUpToDate (upToDate : se.manager.needsInstall se.files = false) (asks : request.asks = true) :
    se.FindsUpToDate request := by
  have answer : se.manager.server.needsInstall se.life.server = (false, se.life.server) :=
    congrArg (·, se.life.server) upToDate
  have quiet : se.life.events = se.life.events ++ [] := (List.append_nil _).symm
  cases request with
  | check =>
    have checked := Lifecycle.check_eq answer
    exact ⟨congrArg Prod.fst checked, rfl, rfl, congrArg (·.2.events) checked⟩
  | activate =>
    have activated := Lifecycle.activate_upToDate answer
    exact ⟨congrArg Prod.fst activated, rfl, congrArg (·.2.server) activated,
      congrArg (·.2.events) activated⟩
  | needsInstall => exact ⟨upToDate, rfl, rfl, quiet⟩
  | status => exact ⟨upToDate, rfl, rfl, quiet⟩
  | isInstalled | installedVersion | binaryPath => exact ⟨trivial, rfl, rfl, quiet⟩
  | install | uninstall | adjust => cases asks

structure SameServer (se after : Session) : Prop where
  manager : after.manager = se.manager
  server : after.life.server = se.life.server

theorem SameServer.upToDate {after : Session} (same : se.SameServer after)
    (upToDate : se.manager.needsInstall se.files = false) :
    after.manager.needsInstall after.files = false := by
  rw [files, same.manager, same.server]
  exact upToDate

theorem sameServer_run (upToDate : se.manager.needsInstall se.files = false) {requests : List Request}
    (asks : ∀ request ∈ requests, request.asks = true) : se.SameServer (se.run requests) := by
  induction requests generalizing se with
  | nil => exact ⟨rfl, rfl⟩
  | cons request requests ih =>
    rw [List.forall_mem_cons] at asks
    have first := findsUpToDate upToDate asks.1
    have now : se.SameServer (se.step request).2 := ⟨first.manager, first.server⟩
    have later := ih (now.upToDate upToDate) asks.2
    exact ⟨later.manager.trans now.manager, later.server.trans now.server⟩

end Session

namespace Manager

variable {m : Manager}

theorem needsInstall_of_unmanaged (unmanaged : m.config.managed = false) (files : FileTree) :
    m.needsInstall files = false := by
  simp [needsInstall, unmanaged]

/-- An activation that succeeds leaves nothing to install where there was nothing, or where the
toolchain has left a binary. -/
theorem needsInstall_of_activate {life life' : Lifecycle Machine} {state : LifecycleState}
    (ok : life.activate m.server = (.ok state, life'))
    (settles : m.config.managed = false ∨ m.needsInstall life.server.files = false ∨
      (m.built life.server).isExecutable m.config.managedBinaryPath = true) :
    m.needsInstall life'.server.files = false := by
  rcases settles with unmanaged | upToDate | built
  · exact needsInstall_of_unmanaged unmanaged _
  · have left := activate_server m life
    rw [ok, upToDate] at left
    rwa [left]
  · cases managed : m.config.managed with
    | false => exact needsInstall_of_unmanaged managed _
    | true =>
      rcases activate_eq_ok ok with ⟨upToDate, same⟩ | installed
      · rwa [same]
      · rw [needsInstall_of_ok managed installed, built]
        rfl

theorem activate_state {life life' : Lifecycle Machine} {state : LifecycleState}
    (ok : life.activate m.server = (.ok state, life')) : state = .upToDate := by
  have result := activate_result m life
  rw [ok] at result
  cases needed : m.needsInstall life.server.files with
  | false => simpa [needed] using result
  | true =>
    rcases installed : m.install.outcome life.server with ⟨e | _, left⟩
    · simp [needed, installed, Except.map] at result
    · simpa [needed, installed, Except.map] using result

/-- Once an activation has settled an installation, whatever is asked finds it up to date: the files
stay as they are, the runner is not consulted, and the host hears of nothing else. Writing the marker
had no part in whether the binary is one. -/
theorem upToDate_after_activate (m : Manager) {life life' : Lifecycle Machine} {state : LifecycleState}
    (ok : life.activate m.server = (.ok state, life'))
    (settles : m.config.managed = false ∨ m.needsInstall life.server.files = false ∨
      (m.built life.server).isExecutable m.config.managedBinaryPath = true) :
    state = .upToDate ∧
    (∀ requests : List Request, (∀ request ∈ requests, request.asks = true) →
      Session.SameServer ⟨m, life'⟩ (Session.run ⟨m, life'⟩ requests) ∧
      ∀ request : Request, request.asks = true →
        (Session.run ⟨m, life'⟩ requests).FindsUpToDate request) ∧
    ∀ files written : FileTree,
      files.writeText m.config.markerPath m.config.desiredVersion = .ok written →
      written.isExecutable m.config.managedBinaryPath =
        files.isExecutable m.config.managedBinaryPath ∧
      m.installedVersion? written = some m.config.desiredVersion := by
  have upToDate : m.needsInstall life'.server.files = false := needsInstall_of_activate ok settles
  refine ⟨activate_state ok, fun requests asks => ?_, fun files written writes => ?_⟩
  · have same : Session.SameServer ⟨m, life'⟩ (Session.run ⟨m, life'⟩ requests) :=
      Session.sameServer_run upToDate asks
    exact ⟨same, fun request asks => Session.findsUpToDate (same.upToDate upToDate) asks⟩
  · exact ⟨FileTree.isExecutable_writeBytes writes _, installedVersion?_of_writeText writes⟩

theorem activate_of_toBool {life : Lifecycle Machine}
    (ok : (life.activate m.server).1.toBool = true) :
    ∃ state, life.activate m.server = (.ok state, (life.activate m.server).2) := by
  rcases outcome : life.activate m.server with ⟨_ | state, left⟩
  · rw [outcome] at ok
    cases ok
  · exact ⟨state, rfl⟩

theorem upToDate_after_activate_rehearsed :
    ∃ life, (Lifecycle.start ⟨rehearsedFiles [], []⟩).activate (rehearsed [binary] 0).server =
        (.ok .upToDate, life) ∧
      (Session.run ⟨rehearsed [binary] 0, life⟩
        [.check, .status none, .activate]).FindsUpToDate .check := by
  have ok : ((Lifecycle.start ⟨rehearsedFiles [], []⟩).activate
      (rehearsed [binary] 0).server).1.toBool = true := by
    decide +kernel
  have program : ((rehearsed [binary] 0).built ⟨rehearsedFiles [], []⟩).isExecutable
      (rehearsed [binary] 0).config.managedBinaryPath = true := by
    decide +kernel
  obtain ⟨state, activated⟩ := activate_of_toBool ok
  obtain ⟨rfl, rests, -⟩ := upToDate_after_activate _ activated (.inr (.inr program))
  exact ⟨_, activated, (rests _ (by decide)).2 _ rfl⟩

end Manager

end ServerKeeper
