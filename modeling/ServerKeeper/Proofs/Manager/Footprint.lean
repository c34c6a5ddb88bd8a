import ServerKeeper.Proofs.Manager.Marker
import ServerKeeper.Proofs.Toolchain.Temporary

namespace ServerKeeper

open Toolchain (Call Command Machine Output Rehearsal Runner Verb)

def Toolchain.Runner.KeepsFiles (r : Runner) : Prop :=
  ∀ calls files command, (r.run calls files command).2 = files

theorem Toolchain.Rehearsal.keepsFiles {r : Rehearsal}
    (bare : ∀ response ∈ r.responses, response.layout = []) : r.runner.KeepsFiles := by
  intro calls files command
  have nothing : (r.responses[calls.countP isRun]?.getD .silence).layout = [] := by
    cases answer : r.responses[calls.countP isRun]? with
    | none => rfl
    | some response => exact bare response (List.mem_of_getElem? answer)
  unfold runner
  dsimp only
  rw [nothing]
  split <;> rfl

namespace Manager

variable {m : Manager} {s s' : Machine}

theorem Invokes.files_eq (lawful : m.scratch.Lawful) (still : m.runner.KeepsFiles)
    (wf : s.files.WellFormed) {program : String} {arguments : List String}
    {result : Except InstallError Output} (invokes : m.Invokes program arguments s result s') :
    s'.files = s.files := by
  cases invokes with
  | noScratch => rfl
  | @runs scratch _ left made ran =>
    have fresh := lawful.fresh wf made
    have same := still s.calls (scratch.putInto s.files) (m.command program arguments scratch.text)
    rw [ran] at same
    -- the runner leaves the tree as it was when the scratch directory had just been made
    subst same
    have stands : Toolchain.directoryAt? (scratch.putInto s.files) scratch.path =
        some scratch.location := Toolchain.directoryAt?_eq_some_iff.mpr ⟨_, fresh.leads⟩
    have outside := stands
    rw [Toolchain.Scratch.putInto, ← FileTree.clear_put wf fresh.vacant] at outside
    exact (lawful.dropped made _ outside).trans (FileTree.prune_put wf fresh.vacant _)

theorem invokes_of_version (program : String) (s : Machine) :
    ∃ result, m.Invokes program ["version"] s result ((m.toolchain program).version.outcome s).2 := by
  rcases ran : ((m.toolchain program).runSubcommand ["version"]).outcome s with ⟨result, after⟩
  refine ⟨result, invokes_iff.mpr ?_⟩
  rw [version_outcome, ran]
  cases result <;> rfl

theorem invokes_of_build (program : String) (verb : Verb) (module : String) (s : Machine) :
    ∃ result, m.Invokes program [verb.name, module] s result
      ((m.toolchain program).install verb module |>.outcome s).2 := by
  rcases ran : ((m.toolchain program).runSubcommand [verb.name, module]).outcome s with
    ⟨result, after⟩
  refine ⟨result, invokes_iff.mpr ?_⟩
  rw [build_outcome, ran]
  cases result <;> rfl

theorem toolchainCalls_invokes {call : FileTree × FileTree} (among : call ∈ m.toolchainCalls s) :
    ∃ program arguments first result last,
      m.Invokes program arguments first result last ∧ call = (first.files, last.files) := by
  unfold toolchainCalls at among
  rcases found : m.findToolchain.outcome s with ⟨e | program, asked⟩
  · simp [found] at among
  rcases based : m.makeBaseDir.outcome asked with ⟨e | _, placed⟩
  · simp [found, based] at among
  obtain ⟨probing, probes⟩ := invokes_of_version (m := m) program placed
  rcases probed : (m.toolchain program).version.outcome placed with ⟨e | version, after⟩
  · simp only [found, based, probed, List.mem_singleton] at among
    rw [probed] at probes
    exact ⟨_, _, _, _, _, probes, among⟩
  · simp only [found, based, probed, List.mem_cons, List.not_mem_nil, or_false] at among
    rw [probed] at probes
    rcases among with rfl | rfl
    · exact ⟨_, _, _, _, _, probes, rfl⟩
    · obtain ⟨building, builds⟩ :=
        invokes_of_build (m := m) program (.ofVersion version) m.config.modulePath after
      exact ⟨_, _, _, _, _, builds, rfl⟩

theorem gains_prepared (wf : s.files.WellFormed) :
    s.files.Gains m.config.baseDir (m.prepared s) := by
  unfold prepared
  split
  · exact FileTree.gains_makeDirectories wf _
  · exact FileTree.gains_refl wf _

theorem built_of_keepsFiles (lawful : m.scratch.Lawful) (still : m.runner.KeepsFiles)
    (wf : s.files.WellFormed) : m.built s = m.prepared s := by
  apply built_induction (P := fun files => files = m.prepared s) rfl
  intro call among before
  obtain ⟨program, arguments, first, result, last, invokes, rfl⟩ := toolchainCalls_invokes among
  dsimp only at before ⊢
  have placed : first.files.WellFormed := before ▸ (gains_prepared wf).wellFormed
  exact (invokes.files_eq lawful still placed).trans before

def Marked (m : Manager) (files : FileTree) (l : Location) (mode : Nat) : Prop :=
  files.place true m.config.markerPath =
    .ok ⟨l, some (.file m.config.desiredVersion.toUTF8 mode), false⟩

/-- What differs between the files before and after an install: directories on the way to the base
directory are new, and once the install has succeeded the marker is, or its content. -/
structure Footprint (m : Manager) (before : FileTree) (result : Except InstallError Unit)
    (after : FileTree) : Prop where
  current : after.current = before.current
  kept : ∀ l e, before.find? l = some e →
    after.find? l = some e ∨
      result = .ok () ∧ ∃ content mode, e = .file content mode ∧ m.Marked after l mode
  added : ∀ l e, before.find? l = none → after.find? l = some e →
    (e = .directory FileTree.newDirectoryMode ∧
      ∃ up left, Path.Ancestor m.config.baseDir up ∧ after.Reaches up (Path.segments up) left l) ∨
    result = .ok () ∧ m.Marked after l FileTree.newFileMode
  marked : result = .ok () → ∃ l mode, m.Marked after l mode

theorem footprint_of_error {before after : FileTree} {e : InstallError}
    (gains : before.Gains m.config.baseDir after) : m.Footprint before (.error e) after where
  current := gains.grown.current
  kept l e found := .inl (gains.grown.entry l e found)
  added l e vacant found := .inl (gains.added l e vacant found)
  marked := nofun

theorem footprint_of_ok {before between after : FileTree}
    (gains : before.Gains m.config.baseDir between)
    (written : between.writeText m.config.markerPath m.config.desiredVersion = .ok after) :
    m.Footprint before (.ok ()) after := by
  obtain ⟨at_, mode, place, writable, rfl⟩ := FileTree.writeBytes_eq_ok_iff.mp written
  have entries := FileTree.find?_written writable m.config.desiredVersion.toUTF8
  have keeps : between.Keeps (between.put at_ (.file m.config.desiredVersion.toUTF8 mode)) :=
    FileTree.keeps_written writable
  have marked : m.Marked _ at_ mode := keeps.place place ((entries at_).trans (if_pos rfl))
  refine ⟨gains.grown.current, fun l e found => ?_, fun l e vacant found => ?_,
    fun _ => ⟨at_, mode, marked⟩⟩
  · have there := gains.grown.entry l e found
    by_cases same : l = at_
    · subst same
      rw [there] at writable
      cases writable
      exact .inr ⟨rfl, _, mode, rfl, marked⟩
    · rw [entries, if_neg same]
      exact .inl there
  · by_cases same : l = at_
    · subst same
      right
      generalize entry : between.find? l = old at writable
      cases writable with
      | new => exact ⟨rfl, marked⟩
      | old =>
        -- what is new on the way to the base directory is no file
        have directory := (gains.added l _ vacant entry).1
        cases directory
    · rw [entries, if_neg same] at found
      obtain ⟨directory, up, left, ancestor, reaches⟩ := gains.added l e vacant found
      exact .inl ⟨directory, up, left, ancestor, keeps.reaches reaches⟩

theorem eq_of_steps_begun {first : Stage × Machine}
    (steps : Relation.ReflTransGen m.Advances first (.begun, s)) : first = (.begun, s) := by
  rcases steps.cases_tail with same | ⟨middle, -, advances⟩
  · exact same.symm
  · cases advances

theorem install_of_absent (absent : m.runner.find s.calls s.files m.config.toolchain = none) :
    m.install.outcome s =
      (.error (.toolchainNotFound m.config.toolchain),
        { s with calls := s.calls ++ [.find m.config.toolchain] }) :=
  outcome_of_steps (.single (.notFound absent))

/-- Only the search for the toolchain ends in its absence, or a runner that gives it for an answer. -/
theorem toolchainNotFound_cases {name : String}
    (outcome : m.install.outcome s = (.error (.toolchainNotFound name), s')) :
    m.runner.find s.calls s.files m.config.toolchain = none ∨
      ∃ calls files command, s'.calls = calls ++ [.run command files] ∧
        (m.runner.run calls files command).1 = .error (.toolchainNotFound name) := by
  have asked {program : String} {arguments : List String} {first last : Machine}
      (invokes : m.Invokes program arguments first (.error (.toolchainNotFound name)) last) :
      ∃ calls files command, last.calls = calls ++ [.run command files] ∧
        (m.runner.run calls files command).1 = .error (.toolchainNotFound name) := by
    cases invokes with
    | runs _ ran => exact ⟨_, _, _, rfl, congrArg Prod.fst ran⟩
  have steps := (outcome_iff_steps .begun s s' _).mp outcome
  rcases steps.cases_tail with same | ⟨⟨stage, last⟩, before, advances⟩
  · cases same
  · cases advances with
    | notFound absent =>
      cases eq_of_steps_begun before
      exact .inl absent
    | noProbe invokes => exact .inr (asked invokes)
    | noBuild invokes => exact .inr (asked invokes)

/-- With a toolchain that changes no files an install leaves all as it was but for its base
directory and, once it succeeds, the marker. Where it fails, not even the marker is different; where
the toolchain is not found nothing at all is, and nothing was run. That it is not found is told
otherwise only by a runner that gives it for an answer to a command. -/
theorem install_footprint (m : Manager) (lawful : m.scratch.Lawful) (wf : s.files.WellFormed)
    (still : m.runner.KeepsFiles) {result : Except InstallError Unit}
    (outcome : m.install.outcome s = (result, s')) :
    m.Footprint s.files result s'.files ∧
    (∀ e, result = .error e → s'.files = m.prepared s) ∧
    (m.runner.find s.calls s.files m.config.toolchain = none →
      result = .error (.toolchainNotFound m.config.toolchain) ∧
        s' = { s with calls := s.calls ++ [.find m.config.toolchain] }) ∧
    ∀ name, result = .error (.toolchainNotFound name) →
      m.runner.find s.calls s.files m.config.toolchain = none ∨
        ∃ calls files command, s'.calls = calls ++ [.run command files] ∧
          (m.runner.run calls files command).1 = .error (.toolchainNotFound name) := by
  have gains := gains_prepared (m := m) wf
  have same := built_of_keepsFiles lawful still wf
  refine ⟨?_, fun e failed => ?_, fun absent => ?_, fun name failed => ?_⟩
  · rcases install_cases outcome with ⟨rfl, written⟩ | ⟨⟨e, rfl⟩, left⟩
    · rw [same] at written
      exact footprint_of_ok gains written
    · rw [left, same]
      exact footprint_of_error gains
  · rcases install_cases outcome with ⟨ok, -⟩ | ⟨-, left⟩
    · cases ok.symm.trans failed
    · exact left.trans same
  · exact Prod.mk.inj (outcome.symm.trans (install_of_absent absent))
  · exact toolchainNotFound_cases (failed ▸ outcome)

def outdated : FileTree :=
  rehearsedFiles
    [(["store"], .directory 0o755), (["store", "LSP-gopls"], .directory 0o755),
     (["store", "LSP-gopls", "bin"], .directory 0o755),
     (["store", "LSP-gopls", "bin", "gopls"], .file .empty 0o755),
     (["store", "LSP-gopls", "VERSION"], .file "0.10.4".toUTF8 0o600)]

theorem install_footprint_outdated :
    ∃ s', (rehearsed [] 0).install.outcome ⟨outdated, []⟩ = (.ok (), s') ∧
      (rehearsed [] 0).Footprint outdated (.ok ()) s'.files := by
  have ok : ((rehearsed [] 0).install.outcome ⟨outdated, []⟩).1.toBool = true := by
    decide +kernel
  have lawful : (rehearsed [] 0).scratch.Lawful := Toolchain.under_lawful "/tmp"
  have wf : outdated.WellFormed := FileTree.wellFormed_of_placesAll (by decide)
  have still : (rehearsed [] 0).runner.KeepsFiles := Rehearsal.keepsFiles (by simp)
  have outcome := outcome_of_toBool ok
  exact ⟨_, outcome, (install_footprint (rehearsed [] 0) lawful wf still outcome).1⟩

def forgetful : Runner where
  find := fun _ _ _ => some "/usr/local/go/bin/go"
  run := fun _ files _ => (.error (.toolchainNotFound "go"), files)

def dangling : FileTree :=
  rehearsedFiles
    [(["store"], .directory 0o755), (["store", "LSP-gopls"], .directory 0o755),
     (["store", "LSP-gopls", "VERSION"], .link "elsewhere")]

/-- Not all that is new after an install is its base directory, with those above it, or stands at the
marker path, though the runner changes no files; nor is the tree what it was, and nothing run, whenever
no toolchain was found. -/
theorem footprint_beyond_marker_path :
    (forgetful.KeepsFiles ∧
      let m : Manager := ⟨.ofRoot "store", forgetful, .under "/tmp"⟩
      let left := (m.install.outcome ⟨rehearsedFiles [], []⟩).2
      (m.install.outcome ⟨rehearsedFiles [], []⟩).1 = .error (.toolchainNotFound "go") ∧
        left.files.find? ["work", "store", "LSP-gopls"] = some (.directory 0o755) ∧
        left.calls.any Rehearsal.isRun = true) ∧
    ((rehearsed [] 0).runner.KeepsFiles ∧
      let left := ((rehearsed [] 0).install.outcome ⟨dangling, []⟩).2.files
      left.find? ["work", "store", "LSP-gopls", "VERSION"] = some (.link "elsewhere") ∧
        left.find? ["work", "store", "LSP-gopls", "elsewhere"] =
          some (.file "0.11.0".toUTF8 FileTree.newFileMode)) := by
  refine ⟨⟨fun _ _ _ => rfl, ?_⟩, Rehearsal.keepsFiles (by simp), ?_⟩
  · decide +kernel
  · decide +kernel

end Manager

end ServerKeeper
