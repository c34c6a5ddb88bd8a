import ServerKeeper.CommandLine.Execution
import ServerKeeper.Proofs.FileTree.Contents
import ServerKeeper.Proofs.Manager.Stages
import ServerKeeper.Toolchain.Rehearsal

namespace ServerKeeper.Manager

open Toolchain (Machine Rehearsal)
open Toolchain.Action (outcome_bind)

/-- The files once the base directory of an install was made. Without a toolchain none is made. -/
def prepared (m : Manager) (s : Machine) : FileTree :=
  match m.runner.find s.calls s.files m.config.toolchain with
  | some _ => (s.files.makeDirectories m.config.baseDir).2
  | none => s.files

/-- The files before and after each call of the toolchain that an install makes: before its scratch
directory is made, and after that is gone. -/
def toolchainCalls (m : Manager) (s : Machine) : List (FileTree × FileTree) :=
  match m.findToolchain.outcome s with
  | (.error _, _) => []
  | (.ok program, s) =>
    match m.makeBaseDir.outcome s with
    | (.error _, _) => []
    | (.ok (), s) =>
      match (m.toolchain program).version.outcome s with
      | (.error _, probed) => [(s.files, probed.files)]
      | (.ok version, probed) =>
        let built :=
          (m.toolchain program).install (.ofVersion version) m.config.modulePath |>.outcome probed
        [(s.files, probed.files), (probed.files, built.2.files)]

def built (m : Manager) (s : Machine) : FileTree :=
  ((m.toolchainCalls s).getLast?.map Prod.snd).getD (m.prepared s)

variable {m : Manager} {s s' : Machine}

/-- What holds of the files with their base directory, and goes on to hold over each call, holds of
them as the toolchain left them. -/
theorem built_induction {P : FileTree → Prop} (begins : P (m.prepared s))
    (keeps : ∀ call ∈ m.toolchainCalls s, P call.1 → P call.2) : P (m.built s) := by
  unfold built
  unfold prepared toolchainCalls at *
  rw [findToolchain_outcome] at *
  cases found : m.runner.find s.calls s.files m.config.toolchain with
  | none => simpa [found] using begins
  | some program =>
    simp only [found, Option.elim, makeBaseDir_outcome] at begins keeps ⊢
    rcases made : s.files.makeDirectories m.config.baseDir with ⟨fault | _, files⟩
    · simpa [made, Except.mapError] using begins
    · simp only [made, Except.mapError] at begins keeps ⊢
      rcases probed : (m.toolchain program).version.outcome _ with ⟨e | version, after⟩
      · simp only [probed, List.mem_singleton, forall_eq] at keeps
        simpa [probed] using keeps begins
      · simp only [probed, List.mem_cons, List.not_mem_nil, or_false, forall_eq_or_imp,
          forall_eq] at keeps
        simpa [probed] using keeps.2 (keeps.1 begins)

theorem writeMarker_cases {result : Except InstallError Unit}
    (outcome : m.writeMarker.outcome s = (result, s')) :
    result = .ok () ∧
        s.files.writeText m.config.markerPath m.config.desiredVersion = .ok s'.files ∨
      (∃ e, result = .error e) ∧ s'.files = s.files := by
  rw [writeMarker_outcome] at outcome
  cases written : s.files.writeText m.config.markerPath m.config.desiredVersion with
  | error fault =>
    simp only [written, Prod.mk.injEq] at outcome
    obtain ⟨rfl, rfl⟩ := outcome
    exact .inr ⟨⟨_, rfl⟩, rfl⟩
  | ok files =>
    simp only [written, Prod.mk.injEq] at outcome
    obtain ⟨rfl, rfl⟩ := outcome
    exact .inl ⟨rfl, rfl⟩

/-- An install that succeeds has written the marker at last; one that fails has left it as the
toolchain did. -/
theorem install_cases {result : Except InstallError Unit} (outcome : m.install.outcome s = (result, s')) :
    result = .ok () ∧
        (m.built s).writeText m.config.markerPath m.config.desiredVersion = .ok s'.files ∨
      (∃ e, result = .error e) ∧ s'.files = m.built s := by
  change (m.remaining .begun).outcome s = _ at outcome
  rw [remaining_begun, outcome_bind, findToolchain_outcome] at outcome
  unfold built prepared toolchainCalls
  rw [findToolchain_outcome]
  cases found : m.runner.find s.calls s.files m.config.toolchain with
  | none =>
    simp only [found, Option.elim, Prod.mk.injEq] at outcome
    obtain ⟨rfl, rfl⟩ := outcome
    exact .inr ⟨⟨_, rfl⟩, rfl⟩
  | some program =>
    simp only [found, Option.elim, remaining_found, outcome_bind, makeBaseDir_outcome] at outcome ⊢
    rcases made : s.files.makeDirectories m.config.baseDir with ⟨fault | _, files⟩
    · simp only [made, Except.mapError, Prod.mk.injEq] at outcome
      obtain ⟨rfl, rfl⟩ := outcome
      exact .inr ⟨⟨_, rfl⟩, rfl⟩
    · simp only [made, Except.mapError, remaining_prepared, outcome_bind] at outcome ⊢
      rcases probed : (m.toolchain program).version.outcome _ with ⟨e | version, between⟩
      · simp only [probed, Prod.mk.injEq] at outcome
        obtain ⟨rfl, rfl⟩ := outcome
        exact .inr ⟨⟨_, rfl⟩, rfl⟩
      · simp only [probed, remaining_probed, outcome_bind] at outcome
        rcases ran : ((m.toolchain program).install (.ofVersion version) m.config.modulePath).outcome
          between with ⟨e | _, left⟩
        · simp only [ran, Prod.mk.injEq] at outcome
          obtain ⟨rfl, rfl⟩ := outcome
          exact .inr ⟨⟨_, rfl⟩, by simp [ran]⟩
        · simp only [ran] at outcome
          simpa [ran] using writeMarker_cases outcome

theorem needsInstall_eq_false_iff (managed : m.config.managed = true) (files : FileTree) :
    m.needsInstall files = false ↔
      files.isExecutable m.config.managedBinaryPath = true ∧
        m.installedVersion? files = some m.config.desiredVersion := by
  simp [needsInstall, managed]

theorem installedVersion?_of_writeText {files written : FileTree} {version : String}
    (ok : files.writeText m.config.markerPath version = .ok written) :
    m.installedVersion? written = some version := by
  rw [installedVersion?, FileTree.readText_writeText ok]
  rfl

theorem installedVersion?_of_ok (ok : m.install.outcome s = (.ok (), s')) :
    m.installedVersion? s'.files = some m.config.desiredVersion := by
  rcases install_cases ok with ⟨-, written⟩ | ⟨⟨e, failed⟩, -⟩
  · exact installedVersion?_of_writeText written
  · cases failed

theorem needsInstall_of_ok (managed : m.config.managed = true)
    (ok : m.install.outcome s = (.ok (), s')) :
    m.needsInstall s'.files = !(m.built s).isExecutable m.config.managedBinaryPath := by
  have named := installedVersion?_of_ok ok
  rcases install_cases ok with ⟨-, written⟩ | ⟨⟨e, failed⟩, -⟩
  · simp [needsInstall, managed, named, FileTree.isExecutable_writeBytes written]
  · cases failed

theorem check_state (m : Manager) (life : Lifecycle Machine) :
    (Lifecycle.check m.server life).1 =
      if m.needsInstall life.server.files then .needsInstall else .upToDate := rfl

theorem activate_result (m : Manager) (life : Lifecycle Machine) :
    (Lifecycle.activate m.server life).1 =
      if m.needsInstall life.server.files then
        (m.install.outcome life.server).1.map fun _ => .upToDate
      else .ok .upToDate := by
  cases needed : m.needsInstall life.server.files with
  | false => simp [Lifecycle.activate, Lifecycle.check, server, needed]
  | true =>
    rcases outcome : m.install.outcome life.server with ⟨_ | _, left⟩ <;>
      simp [Lifecycle.activate, Lifecycle.check, server, needed, outcome, Except.map,
        Lifecycle.transition]

theorem activate_server (m : Manager) (life : Lifecycle Machine) :
    (Lifecycle.activate m.server life).2.server =
      if m.needsInstall life.server.files then (m.install.outcome life.server).2
      else life.server := by
  cases needed : m.needsInstall life.server.files with
  | false => simp [Lifecycle.activate, Lifecycle.check, server, needed, Lifecycle.transition]
  | true =>
    rcases outcome : m.install.outcome life.server with ⟨_ | _, left⟩ <;>
      simp [Lifecycle.activate, Lifecycle.check, server, needed, outcome, Lifecycle.transition]

theorem activate_eq_ok {life life' : Lifecycle Machine} {state : LifecycleState}
    (ok : Lifecycle.activate m.server life = (.ok state, life')) :
    m.needsInstall life.server.files = false ∧ life'.server = life.server ∨
      m.install.outcome life.server = (.ok (), life'.server) := by
  have result := activate_result m life
  have left := activate_server m life
  rw [ok] at result left
  cases needed : m.needsInstall life.server.files with
  | false => exact .inl ⟨rfl, by simpa [needed] using left⟩
  | true =>
    right
    rcases outcome : m.install.outcome life.server with ⟨e | _, s'⟩
    · simp [needed, outcome, Except.map] at result
    · simpa [needed, outcome] using left.symm

/-- The marker names the desired version, and whether that is the end of it hangs on the binary
alone. -/
def Settled (m : Manager) (files : FileTree) : Prop :=
  m.installedVersion? files = some m.config.desiredVersion ∧
    (m.needsInstall files = false ↔ files.isExecutable m.config.managedBinaryPath = true)

theorem settled_of_named (managed : m.config.managed = true) {files : FileTree}
    (named : m.installedVersion? files = some m.config.desiredVersion) : m.Settled files := by
  refine ⟨named, ?_⟩
  rw [needsInstall_eq_false_iff managed]
  exact and_iff_left named

theorem settled_of_activate (managed : m.config.managed = true) {life life' : Lifecycle Machine}
    {state : LifecycleState} (ok : Lifecycle.activate m.server life = (.ok state, life')) :
    m.Settled life'.server.files := by
  apply settled_of_named managed
  rcases activate_eq_ok ok with ⟨done, same⟩ | installed
  · rw [same]
    exact ((needsInstall_eq_false_iff managed _).mp done).2
  · exact installedVersion?_of_ok installed

theorem ofFailure_ne_printState (f : CommandLine.Failure) (state : LifecycleState) :
    CommandLine.Outcome.ofFailure f ≠ CommandLine.printState state :=
  fun same => absurd (congrArg CommandLine.Outcome.exitCode same) (show 1 ≠ 0 by decide)

theorem settled_of_commandLine_install (managed : m.config.managed = true)
    (printed : CommandLine.install m s = (CommandLine.printState .upToDate, s')) :
    m.Settled s'.files := by
  unfold CommandLine.install at printed
  rcases activated : Lifecycle.activate m.server (.start s) with ⟨e | state, life⟩
  · rw [activated, Prod.mk.injEq] at printed
    exact absurd printed.1 (ofFailure_ne_printState _ _)
  · rw [activated, Prod.mk.injEq] at printed
    exact printed.2 ▸ settled_of_activate managed activated

theorem settled_of_forceInstall (managed : m.config.managed = true)
    (printed : CommandLine.forceInstall m s = (CommandLine.printState .upToDate, s')) :
    m.Settled s'.files := by
  unfold CommandLine.forceInstall at printed
  rcases outcome : m.install.outcome s with ⟨e | _, left⟩
  · rw [outcome, Prod.mk.injEq] at printed
    exact absurd printed.1 (ofFailure_ne_printState _ _)
  · rw [outcome, Prod.mk.injEq] at printed
    exact printed.2 ▸ settled_of_named managed (installedVersion?_of_ok outcome)

def rehearsedFiles (installed : List (Location × Entry)) : FileTree where
  entries :=
    (["tmp"], .directory 0o755) :: (["work"], .directory 0o755) ::
      installed.map fun p => ("work" :: p.1, p.2)
  current := ["work"]

def binary : Placement := .file "store/LSP-gopls/bin/gopls" .empty 0o755

/-- The manager of the usual configuration, with a toolchain that tells its version and then ends
with an exit code and files that it leaves behind. -/
def rehearsed (layout : List Placement) (exitCode : Int32) : Manager where
  config := .ofRoot "store"
  runner := Rehearsal.runner ⟨some "/usr/local/go/bin/go",
    [⟨[], none, ⟨"go version go1.21.4 linux/amd64\n", "", some 0⟩⟩,
     ⟨layout, none, ⟨"", "", some exitCode⟩⟩]⟩
  scratch := .under "/tmp"

theorem outcome_of_toBool (ok : (m.install.outcome s).1.toBool = true) :
    m.install.outcome s = (.ok (), (m.install.outcome s).2) := by
  rcases outcome : m.install.outcome s with ⟨_ | _, left⟩
  · rw [outcome] at ok
    cases ok
  · rfl

/-- A success is one of the marker: whatever reports it has the desired version in the marker. The
next check agrees where the toolchain left a program in the place of the binary. -/
theorem success_settles (m : Manager) (managed : m.config.managed = true) :
    (∀ s s', m.install.outcome s = (.ok (), s') → m.Settled s'.files ∧
      (m.needsInstall s'.files = false ↔
        (m.built s).isExecutable m.config.managedBinaryPath = true)) ∧
    (∀ life life', Lifecycle.activate m.server life = (.ok .upToDate, life') →
      m.Settled life'.server.files ∧
      ((Lifecycle.check m.server life').1 = .upToDate ↔
        life'.server.files.isExecutable m.config.managedBinaryPath = true)) ∧
    ∀ s s', CommandLine.install m s = (CommandLine.printState .upToDate, s') ∨
        CommandLine.forceInstall m s = (CommandLine.printState .upToDate, s') →
      m.Settled s'.files := by
  refine ⟨fun s s' ok => ⟨settled_of_named managed (installedVersion?_of_ok ok), ?_⟩,
    fun life life' ok => ?_, ?_⟩
  · rw [needsInstall_of_ok managed ok]
    simp
  · have settled := settled_of_activate managed ok
    refine ⟨settled, ?_⟩
    rw [check_state, ← settled.2]
    cases m.needsInstall life'.server.files <;> simp
  · rintro s s' (printed | printed)
    · exact settled_of_commandLine_install managed printed
    · exact settled_of_forceInstall managed printed

theorem success_settles_rehearsed :
    ∃ s', (rehearsed [binary] 0).install.outcome ⟨rehearsedFiles [], []⟩ = (.ok (), s') ∧
      (rehearsed [binary] 0).needsInstall s'.files = false := by
  have ok : ((rehearsed [binary] 0).install.outcome ⟨rehearsedFiles [], []⟩).1.toBool = true := by
    decide +kernel
  have program : ((rehearsed [binary] 0).built ⟨rehearsedFiles [], []⟩).isExecutable
      (rehearsed [binary] 0).config.managedBinaryPath = true := by
    decide +kernel
  have outcome := outcome_of_toBool ok
  have settles := (success_settles (rehearsed [binary] 0) rfl).1 _ _ outcome
  exact ⟨_, outcome, settles.2.mpr program⟩

/-- A toolchain that ends well without a binary makes an install that succeeds and is asked for
again at once. -/
theorem success_without_binary :
    ¬∀ (m : Manager) (s s' : Machine), m.config.managed = true →
      m.install.outcome s = (.ok (), s') →
      m.installedVersion? s'.files = some m.config.desiredVersion ∧
        m.needsInstall s'.files = false := by
  intro always
  have ok : ((rehearsed [] 0).install.outcome ⟨rehearsedFiles [], []⟩).1.toBool = true := by
    decide +kernel
  have needed : (rehearsed [] 0).needsInstall
      ((rehearsed [] 0).install.outcome ⟨rehearsedFiles [], []⟩).2.files = true := by
    decide +kernel
  have done := (always (rehearsed [] 0) _ _ rfl (outcome_of_toBool ok)).2
  rw [needed] at done
  cases done

def KeepsMarker (m : Manager) (s : Machine) : Prop :=
  ∀ call ∈ m.toolchainCalls s, m.installedVersion? call.2 = m.installedVersion? call.1

instance (m : Manager) (s : Machine) : Decidable (m.KeepsMarker s) :=
  inferInstanceAs (Decidable (∀ call ∈ m.toolchainCalls s, _))

theorem installedVersion?_built (keeps : m.KeepsMarker s) :
    m.installedVersion? (m.built s) = m.installedVersion? (m.prepared s) :=
  built_induction (P := fun files => m.installedVersion? files = m.installedVersion? (m.prepared s))
    rfl fun call among before => (keeps call among).trans before

theorem installedVersion?_of_error {e : InstallError} (keeps : m.KeepsMarker s)
    (failed : m.install.outcome s = (.error e, s')) :
    m.installedVersion? s'.files = m.installedVersion? (m.prepared s) := by
  rcases install_cases failed with ⟨ok, -⟩ | ⟨-, same⟩
  · cases ok
  · rw [same, installedVersion?_built keeps]

/-- Where an installation is kept: the package in a storage root that is named without going up. -/
structure Plain (m : Manager) : Prop where
  root : Path.Component.parent ∉ Path.components m.config.storageRoot
  package : Path.IsPlain m.config.packageName

theorem Plain.segments_baseDir (plain : m.Plain) :
    Path.segments m.config.baseDir =
      Path.segments m.config.storageRoot ++ [m.config.packageName] :=
  Path.segments_join plain.package.isSegment

theorem Plain.isDownward (plain : m.Plain) : Path.IsDownward m.config.baseDir :=
  ⟨_, _, plain.segments_baseDir, plain.package,
    fun member => plain.root (Path.mem_components_of_mem_segments member)⟩

/-- Making the base directory, with all that is missing above it, brings no marker to light and
hides none. -/
theorem Plain.installedVersion?_prepared (plain : m.Plain) (wf : s.files.WellFormed) :
    m.installedVersion? (m.prepared s) = m.installedVersion? s.files := by
  unfold prepared
  split
  · exact FileTree.readText_makeDirectories (by decide) wf plain.isDownward
  · rfl

/-- After a failed install no other is asked for, just where the marker named the desired version
before the toolchain ran and the binary is a program now. -/
theorem needsInstall_of_error (managed : m.config.managed = true) (keeps : m.KeepsMarker s)
    {e : InstallError} (failed : m.install.outcome s = (.error e, s')) :
    (m.needsInstall s'.files = false ↔
      m.installedVersion? (m.prepared s) = some m.config.desiredVersion ∧
        s'.files.isExecutable m.config.managedBinaryPath = true) ∧
    (m.Plain → s.files.WellFormed →
      (m.needsInstall s'.files = false ↔
        m.installedVersion? s.files = some m.config.desiredVersion ∧
          s'.files.isExecutable m.config.managedBinaryPath = true)) := by
  have named := installedVersion?_of_error keeps failed
  have general : m.needsInstall s'.files = false ↔
      m.installedVersion? (m.prepared s) = some m.config.desiredVersion ∧
        s'.files.isExecutable m.config.managedBinaryPath = true := by
    rw [needsInstall_eq_false_iff managed, named, and_comm]
  refine ⟨general, fun plain wf => ?_⟩
  rwa [plain.installedVersion?_prepared wf] at general

def binaryLost : FileTree :=
  rehearsedFiles
    [(["store"], .directory 0o755), (["store", "LSP-gopls"], .directory 0o755),
     (["store", "LSP-gopls", "VERSION"], .file "0.11.0".toUTF8 0o644)]

theorem outcome_of_not_toBool (failed : (m.install.outcome s).1.toBool = false) :
    ∃ e, m.install.outcome s = (.error e, (m.install.outcome s).2) := by
  rcases outcome : m.install.outcome s with ⟨e | _, left⟩
  · exact ⟨e, rfl⟩
  · rw [outcome] at failed
    cases failed

theorem upToDate_after_failure :
    (rehearsed [binary] 1).needsInstall binaryLost = true ∧
      (rehearsed [binary] 1).KeepsMarker ⟨binaryLost, []⟩ ∧
      ∃ e s', (rehearsed [binary] 1).install.outcome ⟨binaryLost, []⟩ = (.error e, s') ∧
        (rehearsed [binary] 1).needsInstall s'.files = false := by
  have keeps : (rehearsed [binary] 1).KeepsMarker ⟨binaryLost, []⟩ := by decide +kernel
  have failed : ((rehearsed [binary] 1).install.outcome ⟨binaryLost, []⟩).1.toBool = false := by
    decide +kernel
  have program : (((rehearsed [binary] 1).install.outcome ⟨binaryLost, []⟩).2.files).isExecutable
      (rehearsed [binary] 1).config.managedBinaryPath = true := by
    decide +kernel
  have named : (rehearsed [binary] 1).installedVersion? binaryLost =
      some (rehearsed [binary] 1).config.desiredVersion := by
    decide +kernel
  have plain : (rehearsed [binary] 1).Plain := ⟨by decide, by decide⟩
  have wf : binaryLost.WellFormed := FileTree.wellFormed_of_placesAll (by decide)
  obtain ⟨e, outcome⟩ := outcome_of_not_toBool failed
  refine ⟨by decide +kernel, keeps, e, _, outcome, ?_⟩
  exact ((needsInstall_of_error rfl keeps outcome).2 plain wf).mpr ⟨named, program⟩

end ServerKeeper.Manager
