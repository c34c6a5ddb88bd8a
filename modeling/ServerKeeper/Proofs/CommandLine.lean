import ServerKeeper.CommandLine.Execution
import ServerKeeper.Proofs.Lifecycle
import ServerKeeper.Toolchain.Rehearsal
import ServerKeeper.Toolchain.Temporary

namespace ServerKeeper.CommandLine

open Toolchain (Machine)

def Unusable {α : Type} (read : String → Except Json.Error α) (files : FileTree) (path : String) : Prop :=
  (∃ fault, files.readText path = .error fault) ∨
    ∃ text e, files.readText path = .ok text ∧ read text = .error e

/-- No place for installations is known: none was given, and there is no directory for caches. -/
def Homeless (s : Surroundings) (a : Arguments) : Prop :=
  a.storagePath = none ∧ (∀ path ∈ s.cacheHome, Path.isAbsolute path = false) ∧
    ∀ path ∈ s.home, path = ""

variable {s : Surroundings} {a : Arguments} {m : Manager} {machine : Machine}

theorem cacheDirectory?_eq_none_iff :
    s.cacheDirectory? = none ↔
      (∀ path ∈ s.cacheHome, Path.isAbsolute path = false) ∧ ∀ path ∈ s.home, path = "" := by
  unfold Surroundings.cacheDirectory?
  cases cache : s.cacheHome.filter Path.isAbsolute with
  | some path =>
    obtain ⟨given, absolute⟩ := Option.filter_eq_some_iff.mp cache
    simp [given, absolute]
  | none =>
    have relative : ∀ path ∈ s.cacheHome, Path.isAbsolute path = false := by
      simpa [Option.filter_eq_none_iff] using cache
    rw [and_iff_right relative]
    simp [Option.filter_eq_none_iff]

theorem storageRoot_eq_error_iff : (∃ f, storageRoot s a = .error f) ↔ Homeless s a := by
  unfold storageRoot Homeless
  rw [← cacheDirectory?_eq_none_iff]
  cases a.storagePath with
  | some path => simp
  | none => cases s.cacheDirectory? <;> simp

theorem load_eq_error_iff {files : FileTree} {path : String} :
    (∃ e, Settings.load files path = .error e) ↔ Unusable Settings.fromJson? files path := by
  unfold Settings.load Settings.parse Unusable
  cases files.readText path with
  | error fault => simp
  | ok text => cases read : Settings.fromJson? text <;> simp [read]

theorem releases_eq_error_iff {files : FileTree} {path : String} :
    (∃ f, releases (some path) files = .error f) ↔ Unusable Release.listingFromJson? files path := by
  unfold releases Unusable
  cases content : files.readText path with
  | error fault => simp [content]
  | ok text => cases read : Release.listingFromJson? text <;> simp [content, read]

/-- A call has no configuration just where no place for installations is known or the settings that
it names are of no use. -/
theorem config_eq_error_iff {files : FileTree} :
    (∃ f, config s a files = .error f) ↔
      Homeless s a ∨ ∃ path ∈ a.settings, Unusable Settings.fromJson? files path := by
  rw [← storageRoot_eq_error_iff]
  simp only [← load_eq_error_iff]
  unfold config
  cases storageRoot s a with
  | error f => simp [bind, Except.bind]
  | ok root =>
    cases a.settings with
    | none => simp [bind, Except.bind]
    | some path => cases load : Settings.load files path <;> simp [bind, Except.bind, load]

theorem execute_of_error {f : Failure} (refused : config s a machine.files = .error f) :
    execute s a machine = (.ofFailure f, machine) := by
  rw [execute, refused]

theorem execute_of_ok {c : Config} (known : config s a machine.files = .ok c) :
    execute s a machine =
      match a.subcommand with
      | .check => (check ⟨c, s.runner, s.scratch⟩ machine, machine)
      | .install =>
        if a.force then forceInstall ⟨c, s.runner, s.scratch⟩ machine
        else install ⟨c, s.runner, s.scratch⟩ machine
      | .status => (status ⟨c, s.runner, s.scratch⟩ a.releases machine, machine)
      | .uninstall => uninstall ⟨c, s.runner, s.scratch⟩ machine := by
  cases asks : a.subcommand <;> simp only [execute, known, asks]

theorem install_of_upToDate (upToDate : m.needsInstall machine.files = false) :
    install m machine = (printState .upToDate, machine) := by
  have answer : m.server.needsInstall machine = (false, machine) := congrArg (·, machine) upToDate
  rw [install, Lifecycle.activate_upToDate (l := .start machine) answer]

/-- An install that is needed comes to what the manager's comes to, and leaves what that leaves. -/
theorem install_of_needed (needed : m.needsInstall machine.files = true) :
    install m machine =
      (match (m.install.outcome machine).1 with
        | .ok () => printState .upToDate
        | .error e => .ofFailure (.install e),
      (m.install.outcome machine).2) := by
  have answer : m.server.needsInstall machine = (true, machine) := congrArg (·, machine) needed
  have installs : m.server.install machine = m.install.outcome machine := rfl
  rcases outcome : m.install.outcome machine with ⟨e | _, left⟩
  · rw [install, Lifecycle.activate_failed (l := .start machine) answer (installs.trans outcome)]
  · rw [install, Lifecycle.activate_installed (l := .start machine) answer (installs.trans outcome)]

theorem printState_upToDate :
    printState .upToDate = .printed "\x7b\"state\":\"upToDate\"\x7d" := by
  decide +kernel

theorem check_eq_upToDate_iff :
    check m machine = .printed "up-to-date" ↔ m.needsInstall machine.files = false := by
  unfold check Outcome.printed
  cases m.needsInstall machine.files <;> simp

inductive Outcome.LineOrFailure : Outcome → Prop
  | printed (line : String) : LineOrFailure (.printed line)
  | silent : LineOrFailure .silent
  | failed (f : Failure) : LineOrFailure (.ofFailure f)

theorem Outcome.LineOrFailure.cases {o : Outcome} (shape : o.LineOrFailure) :
    o.exitCode = 0 ∨ o.exitCode = 1 ∧ o.stdout = "" := by
  cases shape with
  | printed | silent => exact .inl rfl
  | failed => exact .inr ⟨rfl, rfl⟩

theorem lineOrFailure_forceInstall (m : Manager) (machine : Machine) :
    (forceInstall m machine).1.LineOrFailure := by
  unfold forceInstall
  rcases m.install.outcome machine with ⟨e | _, left⟩
  · exact .failed _
  · exact .printed _

theorem lineOrFailure_install (m : Manager) (machine : Machine) :
    (install m machine).1.LineOrFailure := by
  unfold install
  rcases Lifecycle.activate m.server (.start machine) with ⟨e | state, life⟩
  · exact .failed _
  · exact .printed _

theorem lineOrFailure_status (m : Manager) (path : Option String) (machine : Machine) :
    (status m path machine).LineOrFailure := by
  unfold status
  cases releases path machine.files with
  | error f => exact .failed f
  | ok listing => exact .printed _

theorem lineOrFailure_uninstall (m : Manager) (machine : Machine) :
    (uninstall m machine).1.LineOrFailure := by
  unfold uninstall
  rcases m.uninstall.outcome machine with ⟨e | _, left⟩
  · exact .failed _
  · exact .silent

theorem lineOrFailure_execute (s : Surroundings) (a : Arguments) (machine : Machine) :
    (execute s a machine).1.LineOrFailure := by
  cases known : config s a machine.files with
  | error f =>
    rw [execute_of_error known]
    exact .failed f
  | ok c =>
    rw [execute_of_ok known]
    cases a.subcommand with
    | check => exact .printed _
    | status => exact lineOrFailure_status ..
    | uninstall => exact lineOrFailure_uninstall ..
    | install =>
      cases a.force with
      | true => exact lineOrFailure_forceInstall ..
      | false => exact lineOrFailure_install ..

theorem exitCode_ofStop (stop : Stop) : (Outcome.ofStop stop).exitCode ≠ 1 := by
  cases stop <;> decide

/-- A call that is refused fails, prints nothing and does nothing. -/
structure Refused (s : Surroundings) (a : Arguments) (machine : Machine) : Prop where
  exitCode : (execute s a machine).1.exitCode = 1
  stdout : (execute s a machine).1.stdout = ""
  machine : (execute s a machine).2 = machine

theorem refused_of_unconfigured
    (unconfigured : Homeless s a ∨ ∃ path ∈ a.settings, Unusable Settings.fromJson? machine.files path) :
    Refused s a machine := by
  obtain ⟨f, refused⟩ := config_eq_error_iff.mpr unconfigured
  have ends := execute_of_error refused
  exact ⟨by rw [ends]; rfl, by rw [ends]; rfl, by rw [ends]⟩

theorem machine_of_look (looks : a.subcommand = .check ∨ a.subcommand = .status) :
    (execute s a machine).2 = machine := by
  cases known : config s a machine.files with
  | error f => rw [execute_of_error known]
  | ok c => rcases looks with look | look <;> rw [execute_of_ok known, look]

theorem refused_of_releases (asks : a.subcommand = .status) {path : String}
    (given : path ∈ a.releases) (unusable : Unusable Release.listingFromJson? machine.files path) :
    Refused s a machine := by
  refine ⟨?_, ?_, machine_of_look (.inr asks)⟩
  all_goals
    cases known : config s a machine.files with
    | error f =>
      rw [execute_of_error known]
      rfl
    | ok c =>
      obtain ⟨f, unread⟩ := releases_eq_error_iff.mpr unusable
      have named : a.releases = some path := given
      rw [execute_of_ok known, asks]
      simp only [status, named, unread]
      rfl

theorem execute_check {c : Config} (known : config s a machine.files = .ok c) :
    execute s { a with subcommand := .check } machine =
      (check ⟨c, s.runner, s.scratch⟩ machine, machine) :=
  execute_of_ok (a := { a with subcommand := .check }) known

theorem execute_install {c : Config} (known : config s a machine.files = .ok c)
    (asks : a.subcommand = .install) (unforced : a.force = false) :
    execute s a machine = install ⟨c, s.runner, s.scratch⟩ machine := by
  rw [execute_of_ok known, asks, unforced]
  rfl

def installedOnly : Machine where
  files :=
    { entries :=
        [(["work"], .directory 0o755), (["work", "store"], .directory 0o755),
         (["work", "store", "LSP-gopls"], .directory 0o755),
         (["work", "store", "LSP-gopls", "VERSION"], .file "0.11.0".toUTF8 0o644)]
      current := ["work"] }
  calls := []

def missingSettings : Arguments where
  subcommand := .uninstall
  force := false
  storagePath := some "store"
  settings := some "settings.json"
  serverVersion := none
  releases := none

def bareSurroundings : Surroundings := ⟨none, none, Toolchain.Rehearsal.runner ⟨none, []⟩, .under "/tmp"⟩

end ServerKeeper.CommandLine
