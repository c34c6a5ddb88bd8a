import ServerKeeper.Proofs.Manager.Session

namespace ServerKeeper

open Toolchain (Machine)

def Manager.override (m : Manager) (command : Option String) : Manager :=
  { m with config := { m.config with command } }

/-- Requests that are the same but for what they say about where the binary is. -/
inductive Request.Alike : Request → Request → Prop
  | same {request} : Alike request request
  | adjust {desiredVersion command another managed} :
      Alike (.adjust desiredVersion command managed) (.adjust desiredVersion another managed)

/-- Answers to a request that are the same but for what they tell of the place where the binary is
looked for. A report tells of it in two of its fields. -/
inductive Answer.Alike : Request → Answer → Answer → Prop
  | same {request answer} : Alike request answer answer
  | report {listing status} (installed : Bool) (binaryPath : String) :
      Alike (.status listing) (.report status) (.report { status with installed, binaryPath })
  | installed {here there} : Alike .isInstalled (.installed here) (.installed there)
  | path {here there} : Alike .binaryPath (.path here) (.path there)

namespace Session

/-- Sessions that differ at most in the user's word for where the binary is. -/
structure Alike (se other : Session) : Prop where
  manager : ∃ command, other.manager = se.manager.override command
  life : other.life = se.life

/-- What can be seen of a request: its answer, and the life that it leaves, with the files, the calls
of the runner and the reports to the host. -/
structure Turn where
  request : Request
  answer : Answer
  life : Lifecycle Machine

def turns : Session → List Request → List Turn
  | _, [] => []
  | se, request :: requests =>
    let left := se.step request
    ⟨request, left.1, left.2.life⟩ :: left.2.turns requests

/-- Turns that are the same but for what is told of the place where the binary is looked for. -/
structure Turn.Alike (turn other : Turn) : Prop where
  request : turn.request.Alike other.request
  answer : Answer.Alike turn.request turn.answer other.answer
  life : other.life = turn.life

end Session

section Override

variable (m : Manager) (command : Option String)

@[simp] theorem Manager.override_runner : (m.override command).runner = m.runner := rfl

@[simp] theorem Manager.override_scratch : (m.override command).scratch = m.scratch := rfl

@[simp] theorem Manager.override_serverName :
    (m.override command).config.serverName = m.config.serverName := rfl

@[simp] theorem Manager.override_desiredVersion :
    (m.override command).config.desiredVersion = m.config.desiredVersion := rfl

@[simp] theorem Manager.override_toolchain :
    (m.override command).config.toolchain = m.config.toolchain := rfl

@[simp] theorem Manager.override_managed :
    (m.override command).config.managed = m.config.managed := rfl

@[simp] theorem Manager.override_baseDir :
    (m.override command).config.baseDir = m.config.baseDir := rfl

@[simp] theorem Manager.override_markerPath :
    (m.override command).config.markerPath = m.config.markerPath := rfl

@[simp] theorem Manager.override_modulePath :
    (m.override command).config.modulePath = m.config.modulePath := rfl

@[simp] theorem Manager.override_managedBinaryPath :
    (m.override command).config.managedBinaryPath = m.config.managedBinaryPath := rfl

theorem Manager.override_installedVersion? :
    (m.override command).installedVersion? = m.installedVersion? := by
  funext files
  rw [installedVersion?, installedVersion?, override_markerPath]

theorem Manager.override_needsInstall : (m.override command).needsInstall = m.needsInstall := by
  funext files
  simp only [needsInstall, override_managed, override_managedBinaryPath, override_desiredVersion,
    override_installedVersion?]

theorem Manager.override_findToolchain :
    (m.override command).findToolchain = m.findToolchain := by
  rw [findToolchain, findToolchain, override_runner, override_toolchain]

theorem Manager.override_makeBaseDir : (m.override command).makeBaseDir = m.makeBaseDir := by
  unfold makeBaseDir
  rw [override_baseDir]

theorem Manager.override_writeMarker : (m.override command).writeMarker = m.writeMarker := by
  unfold writeMarker
  rw [override_markerPath, override_desiredVersion]

theorem Manager.override_install : (m.override command).install = m.install := by
  rw [install, install, override_findToolchain, override_makeBaseDir, override_writeMarker,
    override_runner, override_scratch, override_baseDir, override_modulePath]

theorem Manager.override_uninstall : (m.override command).uninstall = m.uninstall := by
  unfold uninstall
  rw [override_baseDir]

theorem Manager.override_server : (m.override command).server = m.server := by
  simp only [server, override_serverName, override_needsInstall, override_install]

theorem Manager.override_status (listing : Option (List Release)) (files : FileTree) :
    (m.override command).status listing files =
      { m.status listing files with
        installed := (m.override command).isInstalled files
        binaryPath := (m.override command).config.binaryPath } := by
  simp only [status, override_serverName, override_desiredVersion, override_managed,
    override_needsInstall, override_installedVersion?]

end Override

namespace Session

variable {se other : Session}

theorem Alike.step (alike : se.Alike other) {request another : Request}
    (requests : request.Alike another) :
    Answer.Alike request (se.step request).1 (other.step another).1 ∧
      (se.step request).2.Alike (other.step another).2 := by
  obtain ⟨⟨command, manager⟩, life⟩ := alike
  cases other
  subst manager life
  cases requests with
  | adjust => exact ⟨.same, ⟨_, rfl⟩, rfl⟩
  | same =>
    cases request with
    | isInstalled => exact ⟨.installed, ⟨command, rfl⟩, rfl⟩
    | binaryPath => exact ⟨.path, ⟨command, rfl⟩, rfl⟩
    | status listing =>
      have told := Manager.override_status se.manager command listing se.files
      refine ⟨?_, ⟨command, rfl⟩, rfl⟩
      simp only [Session.step, files] at told ⊢
      rw [told]
      exact .report _ _
    | adjust => exact ⟨.same, ⟨_, rfl⟩, rfl⟩
    | needsInstall | installedVersion | install | uninstall | check | activate =>
      simp only [Session.step, reading, files, Manager.override_needsInstall,
        Manager.override_installedVersion?, Manager.override_install, Manager.override_uninstall,
        Manager.override_server]
      exact ⟨.same, ⟨command, rfl⟩, rfl⟩

/-- The user's word for where the binary is has no say in how a session goes: turn by turn the
answers, the files, the calls of the runner and the reports to the host are the same, but for what is
told of that place. -/
theorem turns_alike (alike : se.Alike other) {requests others : List Request}
    (same : List.Forall₂ Request.Alike requests others) :
    List.Forall₂ Turn.Alike (se.turns requests) (other.turns others) := by
  induction same generalizing se other with
  | nil => exact .nil
  | cons first _ ih =>
    obtain ⟨answer, left⟩ := alike.step first
    exact .cons ⟨first, answer, left.life⟩ (ih left)

def missingCommand : Session :=
  { rehearsed with manager := rehearsed.manager.override (some "$\x7bstorage_path\x7d/LSP-gopls/VERSION") }

theorem turns_alike_missingCommand :
    List.Forall₂ Turn.Alike
      (rehearsed.turns [.activate, .status none, .adjust "0.12.0" none true, .needsInstall, .uninstall])
      (missingCommand.turns
        [.activate, .status none, .adjust "0.12.0" (some "/bin/sh") true, .needsInstall, .uninstall]) ∧
    (rehearsed.run [.activate]).manager.isInstalled (rehearsed.run [.activate]).files = true ∧
    (missingCommand.run [.activate]).manager.isInstalled (missingCommand.run [.activate]).files =
      false := by
  have requests : List.Forall₂ Request.Alike
      [.activate, .status none, .adjust "0.12.0" none true, .needsInstall, .uninstall]
      [.activate, .status none, .adjust "0.12.0" (some "/bin/sh") true, .needsInstall, .uninstall] :=
    .cons .same (.cons .same (.cons .adjust (.cons .same (.cons .same .nil))))
  have alike : rehearsed.Alike missingCommand := ⟨⟨_, rfl⟩, rfl⟩
  exact ⟨turns_alike alike requests, by decide +kernel, by decide +kernel⟩

end Session

end ServerKeeper
