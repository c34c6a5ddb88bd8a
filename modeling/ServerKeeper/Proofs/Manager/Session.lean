import ServerKeeper.Proofs.Manager.Marker

namespace ServerKeeper

open Toolchain (Machine)

inductive Request
  | needsInstall
  | isInstalled
  | installedVersion
  | binaryPath
  | status (listing : Option (List Release))
  | install
  | uninstall
  | check
  | activate
  | adjust (desiredVersion : String) (command : Option String) (managed : Bool)

inductive Answer
  | needed (needed : Bool)
  | installed (installed : Bool)
  | version (version : Option String)
  | path (path : String)
  | report (status : Status)
  | done (result : Except InstallError Unit)
  | state (state : LifecycleState)
  | activated (result : Except InstallError LifecycleState)
  | adjusted

def Answer.isOk : Answer → Bool
  | done result => result.toBool
  | activated result => result.toBool
  | _ => true

structure Session where
  manager : Manager
  life : Lifecycle Machine

/-- What a request leaves in the marker: the version that was installed, or nothing. -/
inductive Mark
  | installed (version : String)
  | removed

namespace Mark

def reading : Mark → Option String
  | installed version => some version
  | removed => none

end Mark

namespace Session

def files (se : Session) : FileTree := se.life.server.files

def reading (se : Session) : Option String := se.manager.installedVersion? se.files

def adjust (se : Session) (desiredVersion : String) (command : Option String) (managed : Bool) :
    Session :=
  { se with
    manager := { se.manager with config := { se.manager.config with desiredVersion, command, managed } } }

def step (se : Session) : Request → Answer × Session
  | .needsInstall => (.needed (se.manager.needsInstall se.files), se)
  | .isInstalled => (.installed (se.manager.isInstalled se.files), se)
  | .installedVersion => (.version se.reading, se)
  | .binaryPath => (.path se.manager.config.binaryPath, se)
  | .status listing => (.report (se.manager.status listing se.files), se)
  | .install =>
    let left := se.manager.install.outcome se.life.server
    (.done left.1, { se with life := { se.life with server := left.2 } })
  | .uninstall =>
    let left := se.manager.uninstall.outcome se.life.server
    (.done left.1, { se with life := { se.life with server := left.2 } })
  | .check =>
    let left := se.life.check se.manager.server
    (.state left.1, { se with life := left.2 })
  | .activate =>
    let left := se.life.activate se.manager.server
    (.activated left.1, { se with life := left.2 })
  | .adjust desiredVersion command managed =>
    (.adjusted, se.adjust desiredVersion command managed)

def run (se : Session) (requests : List Request) : Session :=
  requests.foldl (fun se request => (se.step request).2) se

/-- What a request writes if it succeeds. An activation writes only where an install is needed. -/
def intent (se : Session) : Request → Option Mark
  | .install => some (.installed se.manager.config.desiredVersion)
  | .uninstall => some .removed
  | .activate =>
    if se.manager.needsInstall se.files then some (.installed se.manager.config.desiredVersion)
    else none
  | _ => none

def mark? (se : Session) (request : Request) : Option Mark :=
  if (se.step request).1.isOk then se.intent request else none

def marks : Session → List Request → List Mark
  | _, [] => []
  | se, request :: requests => (se.mark? request).toList ++ (se.step request).2.marks requests

def callsOf (se : Session) : Request → List (FileTree × FileTree)
  | .install => se.manager.toolchainCalls se.life.server
  | .activate =>
    if se.manager.needsInstall se.files then se.manager.toolchainCalls se.life.server else []
  | _ => []

def toolchainCalls : Session → List Request → List (FileTree × FileTree)
  | _, [] => []
  | se, request :: requests => se.callsOf request ++ (se.step request).2.toolchainCalls requests

end Session

namespace Manager

variable {m : Manager} {s s' : Machine} {result : Except InstallError Unit}

theorem Plain.steps_baseDir (plain : m.Plain) :
    FileTree.steps m.config.baseDir = Path.segments m.config.baseDir := by
  rw [plain.segments_baseDir]
  exact FileTree.steps_join plain.package

theorem installedVersion?_of_not_opens {files : FileTree} (closed : ¬files.Opens m.config.baseDir) :
    m.installedVersion? files = none :=
  FileTree.readText_of_not_opens (by decide) closed

theorem uninstall_outcome (m : Manager) (s : Machine) :
    m.uninstall.outcome s =
      (match (s.files.removeTree m.config.baseDir).1 with
        | .ok () => .ok ()
        | .error .notFound => .ok ()
        | .error fault => .error (.io ("Failed to remove install directory '" ++ m.config.baseDir ++
            "': " ++ fault.message)),
        { s with files := (s.files.removeTree m.config.baseDir).2 }) := by
  unfold uninstall Toolchain.Action.outcome
  beta_reduce
  rcases s.files.removeTree m.config.baseDir with ⟨fault | _, files⟩
  · cases fault <;> rfl
  · rfl

theorem uninstall_cases (plain : m.Plain) (wf : s.files.WellFormed)
    (outcome : m.uninstall.outcome s = (result, s')) :
    result = .ok () ∧ s'.files.WellFormed ∧ m.installedVersion? s'.files = none ∨
      (∃ e, result = .error e) ∧ s'.files = s.files := by
  unfold uninstall Toolchain.Action.outcome at outcome
  rcases removed : s.files.removeTree m.config.baseDir with ⟨fault | _, left⟩
  · obtain ⟨rfl, reason⟩ := FileTree.removeTree_error plain.segments_baseDir plain.package
      plain.steps_baseDir removed
    by_cases missing : fault = .notFound
    · subst missing
      simp only [removed, Prod.mk.injEq] at outcome
      obtain ⟨rfl, rfl⟩ := outcome
      have closed := FileTree.not_opens_of_missing plain.segments_baseDir plain.package
        plain.steps_baseDir (reason.resolve_right nofun)
      exact .inl ⟨rfl, wf, installedVersion?_of_not_opens closed⟩
    · have failed : (∃ e, result = .error e) ∧ s' = s := by
        cases fault <;> simp_all [eq_comm]
      exact .inr ⟨failed.1, congrArg _ failed.2⟩
  · simp only [removed, Prod.mk.injEq] at outcome
    obtain ⟨rfl, rfl⟩ := outcome
    obtain ⟨wf, closed⟩ := FileTree.removeTree_ok wf plain.segments_baseDir plain.package
      plain.steps_baseDir removed
    exact .inl ⟨rfl, wf, installedVersion?_of_not_opens closed⟩

theorem Plain.wellFormed_prepared (plain : m.Plain) (wf : s.files.WellFormed) :
    (m.prepared s).WellFormed := by
  unfold prepared
  split
  · rcases FileTree.makeDirectories_cases wf plain.isDownward with same | grows
    · rwa [same]
    · exact grows.wellFormed
  · exact wf

/-- An install that succeeds leaves the desired version in the marker, and one that fails leaves
there what it found. -/
theorem install_marker (plain : m.Plain) (wf : s.files.WellFormed)
    (trees : ∀ call ∈ m.toolchainCalls s, call.1.WellFormed → call.2.WellFormed)
    (keeps : m.KeepsMarker s) (outcome : m.install.outcome s = (result, s')) :
    s'.files.WellFormed ∧
      m.installedVersion? s'.files =
        if result.toBool then some m.config.desiredVersion else m.installedVersion? s.files := by
  have built : (m.built s).WellFormed := built_induction (plain.wellFormed_prepared wf) trees
  rcases install_cases outcome with ⟨rfl, written⟩ | ⟨⟨e, rfl⟩, same⟩
  · exact ⟨built.writeBytes written, installedVersion?_of_ok outcome⟩
  · rw [same, installedVersion?_built keeps, plain.installedVersion?_prepared wf]
    exact ⟨built, rfl⟩

end Manager

namespace Session

variable {se : Session} {request : Request}

theorem step_place (se : Session) (request : Request) :
    (se.step request).2.manager.config.storageRoot = se.manager.config.storageRoot ∧
      (se.step request).2.manager.config.packageName = se.manager.config.packageName := by
  cases request <;> exact ⟨rfl, rfl⟩

theorem step_plain (plain : se.manager.Plain) : (se.step request).2.manager.Plain := by
  obtain ⟨root, package⟩ := se.step_place request
  exact ⟨root ▸ plain.root, package ▸ plain.package⟩

theorem step_installedVersion? (se : Session) (request : Request) (files : FileTree) :
    (se.step request).2.manager.installedVersion? files = se.manager.installedVersion? files := by
  obtain ⟨root, package⟩ := se.step_place request
  simp only [Manager.installedVersion?, Config.markerPath, Config.baseDir, root, package]

theorem reading_of_files {files : FileTree} (left : (se.step request).2.files = files) :
    (se.step request).2.reading = se.manager.installedVersion? files := by
  rw [reading, step_installedVersion?, left]

theorem mark?_of_idle (idle : se.intent request = none) : se.mark? request = none := by
  rw [mark?, idle, ite_self]

theorem mark?_of_intent {mark : Mark} {ok : Bool} (intends : se.intent request = some mark)
    (ends : (se.step request).1.isOk = ok) :
    se.mark? request = if ok then some mark else none := by
  rw [mark?, intends, ends]

theorem reading_of_install {ok : Bool} {version : String} {before after : Option String}
    (marker : after = if ok then some version else before) :
    after = (if ok then some (Mark.installed version) else none).elim before Mark.reading := by
  rw [marker]
  cases ok <;> rfl

theorem step_reading (plain : se.manager.Plain) (wf : se.files.WellFormed)
    (trees : ∀ call ∈ se.callsOf request, call.1.WellFormed → call.2.WellFormed)
    (keeps : ∀ call ∈ se.callsOf request,
      se.manager.installedVersion? call.2 = se.manager.installedVersion? call.1) :
    (se.step request).2.files.WellFormed ∧
      (se.step request).2.reading = (se.mark? request).elim se.reading Mark.reading := by
  have idle (same : (se.step request).2.files = se.files) (none : se.mark? request = none) :
      (se.step request).2.files.WellFormed ∧
        (se.step request).2.reading = (se.mark? request).elim se.reading Mark.reading := by
    rw [reading_of_files same, same, none, Option.elim_none]
    exact ⟨wf, rfl⟩
  cases request with
  | install =>
    rcases outcome : se.manager.install.outcome se.life.server with ⟨result, left⟩
    obtain ⟨built, marker⟩ := Manager.install_marker plain wf trees keeps outcome
    have stepped : (se.step .install).2.files = left.files := by simp only [step, files, outcome]
    have ends : (se.step .install).1.isOk = result.toBool := by
      simp only [step, Answer.isOk, outcome]
    rw [reading_of_files stepped, stepped, mark?_of_intent rfl ends]
    exact ⟨built, reading_of_install marker⟩
  | uninstall =>
    rcases outcome : se.manager.uninstall.outcome se.life.server with ⟨result, left⟩
    have stepped : (se.step .uninstall).2.files = left.files := by simp only [step, files, outcome]
    have ends : (se.step .uninstall).1.isOk = result.toBool := by
      simp only [step, Answer.isOk, outcome]
    rcases Manager.uninstall_cases plain wf outcome with ⟨rfl, kept, gone⟩ | ⟨⟨e, rfl⟩, same⟩
    · rw [reading_of_files stepped, stepped, mark?_of_intent rfl ends]
      exact ⟨kept, gone⟩
    · exact idle (stepped.trans same) (mark?_of_intent rfl ends)
  | activate =>
    have server := Manager.activate_server se.manager se.life
    have answer := Manager.activate_result se.manager se.life
    cases needed : se.manager.needsInstall se.life.server.files with
    | false =>
      have same : (se.step .activate).2.files = se.files := by
        simp only [step, files, server, needed, Bool.false_eq_true, if_false]
      exact idle same (mark?_of_idle (by simp only [intent, files, needed, Bool.false_eq_true, if_false]))
    | true =>
      simp only [callsOf, files, needed, if_true] at trees keeps
      rcases outcome : se.manager.install.outcome se.life.server with ⟨result, left⟩
      obtain ⟨built, marker⟩ := Manager.install_marker plain wf trees keeps outcome
      have stepped : (se.step .activate).2.files = left.files := by
        simp only [step, files, server, needed, outcome, if_true]
      have ends : (se.step .activate).1.isOk = result.toBool := by
        simp only [step, Answer.isOk, answer, needed, outcome, if_true]
        cases result <;> rfl
      have intends : se.intent .activate =
          some (.installed se.manager.config.desiredVersion) := by
        simp only [intent, files, needed, if_true]
      rw [reading_of_files stepped, stepped, mark?_of_intent intends ends]
      exact ⟨built, reading_of_install marker⟩
  | _ => exact idle rfl (mark?_of_idle rfl)

/-- The marker keeps the history of a session: it names the version that was installed last, unless
the installation was removed since. -/
theorem reading_run (se : Session) (requests : List Request) (plain : se.manager.Plain)
    (wf : se.files.WellFormed)
    (trees : ∀ call ∈ se.toolchainCalls requests, call.1.WellFormed → call.2.WellFormed)
    (keeps : ∀ call ∈ se.toolchainCalls requests,
      se.manager.installedVersion? call.2 = se.manager.installedVersion? call.1) :
    (se.run requests).reading = (se.marks requests).getLast?.elim se.reading Mark.reading := by
  induction requests generalizing se with
  | nil => simp only [run, List.foldl_nil, marks, List.getLast?_nil, Option.elim_none]
  | cons request requests ih =>
    simp only [toolchainCalls, List.forall_mem_append] at trees keeps
    obtain ⟨after, now⟩ := step_reading plain wf trees.1 keeps.1
    have later := ih _ (step_plain plain) after trees.2
      (by simpa only [step_installedVersion?] using keeps.2)
    have first : se.run (request :: requests) = (se.step request).2.run requests := rfl
    -- the later requests count from the reading that this one leaves
    rw [first, later, marks, List.getLast?_append, now]
    cases marks (se.step request).2 requests |>.getLast? <;> cases se.mark? request <;> simp

def rehearsed : Session :=
  ⟨Manager.rehearsed [Manager.binary] 0, .start ⟨Manager.rehearsedFiles [], []⟩⟩

theorem reading_run_rehearsed :
    (rehearsed.run [.activate, .adjust "0.12.0" none true, .install]).reading = some "0.11.0" := by
  have placed : ∀ call ∈ rehearsed.toolchainCalls [.activate, .adjust "0.12.0" none true, .install],
      call.2.placesAll = true := by
    decide +kernel
  have keeps : ∀ call ∈ rehearsed.toolchainCalls [.activate, .adjust "0.12.0" none true, .install],
      rehearsed.manager.installedVersion? call.2 = rehearsed.manager.installedVersion? call.1 := by
    decide +kernel
  have last : (rehearsed.marks [.activate, .adjust "0.12.0" none true, .install]).getLast?.elim
      rehearsed.reading Mark.reading = some "0.11.0" := by
    decide +kernel
  have plain : rehearsed.manager.Plain := ⟨by decide, by decide⟩
  have wf : rehearsed.files.WellFormed := FileTree.wellFormed_of_placesAll (by decide)
  have trees := fun call among (_ : Prod.fst call |>.WellFormed) =>
    FileTree.wellFormed_of_placesAll (placed call among)
  exact (reading_run rehearsed _ plain wf trees keeps).trans last

end Session

end ServerKeeper
