import Mathlib.Logic.Relation
import Mathlib.Tactic
import ServerKeeper.Proofs.Toolchain.Scratch

namespace ServerKeeper

open Toolchain (Action Call Command Machine Output Verb)

namespace Toolchain.Action

variable {α β : Type}

theorem outcome_bind (a : Action α) (f : α → Action β) (s : Machine) :
    (a >>= f).outcome s =
      match a.outcome s with
      | (.ok x, s) => (f x).outcome s
      | (.error e, s) => (.error e, s) := by
  cases h : a s <;> simp only [outcome, bind, EStateM.bind, h]

@[simp] theorem outcome_pure (x : α) (s : Machine) : (pure x : Action α).outcome s = (.ok x, s) := rfl

@[simp] theorem outcome_throw (e : InstallError) (s : Machine) :
    (throw e : Action α).outcome s = (.error e, s) := rfl

end Toolchain.Action

namespace Manager

open Toolchain.Action (outcome_bind)

def toolchain (m : Manager) (program : String) : Toolchain :=
  ⟨m.runner, program, m.config.baseDir, m.scratch⟩

def command (m : Manager) (program : String) (arguments : List String) (scratch : String) : Command where
  program := program
  arguments := arguments
  bindings :=
    [("GO111MODULE", "on"),
     ("GOPATH", m.config.baseDir),
     ("GOBIN", Path.join m.config.baseDir "bin"),
     ("GOCACHE", Path.join m.config.baseDir "go-build"),
     ("GOMODCACHE", Path.join (Path.join m.config.baseDir "pkg") "mod"),
     ("GOTMPDIR", scratch)]

/-- One call of the toolchain: no scratch directory could be made and nothing was run, or the runner
was asked once, and the scratch directory is gone again. -/
inductive Invokes (m : Manager) (program : String) (arguments : List String) :
    Machine → Except InstallError Output → Machine → Prop
  | noScratch {s reason} : m.scratch.make s.calls s.files = .error reason →
      Invokes m program arguments s
        (.error (.io ("Failed to create toolchain scratch directory: " ++ reason))) s
  | runs {s scratch result left} : m.scratch.make s.calls s.files = .ok scratch →
      m.runner.run s.calls (scratch.putInto s.files) (m.command program arguments scratch.text) =
        (result, left) →
      Invokes m program arguments s result
        ⟨m.scratch.drop scratch left, s.calls ++
          [.run (m.command program arguments scratch.text) (scratch.putInto s.files)]⟩

inductive Stage
  | begun
  | found (program : String)
  | prepared (program : String)
  | probed (program : String) (verb : Verb)
  | built
  | ended (result : Except InstallError Unit)

/-- One stage of an install: the rule of its success and those of its failures. -/
inductive Advances (m : Manager) : Stage × Machine → Stage × Machine → Prop
  | find {s program} : m.runner.find s.calls s.files m.config.toolchain = some program →
      Advances m (.begun, s) (.found program, { s with calls := s.calls ++ [.find m.config.toolchain] })
  | notFound {s} : m.runner.find s.calls s.files m.config.toolchain = none →
      Advances m (.begun, s)
        (.ended (.error (.toolchainNotFound m.config.toolchain)),
          { s with calls := s.calls ++ [.find m.config.toolchain] })
  | makeBase {s program files} : s.files.makeDirectories m.config.baseDir = (.ok (), files) →
      Advances m (.found program, s) (.prepared program, { s with files })
  | noBase {s program fault files} : s.files.makeDirectories m.config.baseDir = (.error fault, files) →
      Advances m (.found program, s)
        (.ended (.error (.io ("Failed to create install directory '" ++ m.config.baseDir ++ "': " ++
          fault.message))), { s with files })
  | probe {s program output s'} : m.Invokes program ["version"] s (.ok output) s' →
      output.exitCode = some 0 →
      Advances m (.prepared program, s) (.probed program (.ofVersion (.parse output.stdout)), s')
  | probeFails {s program output s'} : m.Invokes program ["version"] s (.ok output) s' →
      output.exitCode ≠ some 0 →
      Advances m (.prepared program, s)
        (.ended (.error (.versionProbeFailed output.stderr output.exitCode)), s')
  | noProbe {s program e s'} : m.Invokes program ["version"] s (.error e) s' →
      Advances m (.prepared program, s) (.ended (.error e), s')
  | build {s program verb output s'} :
      m.Invokes program [verb.name, m.config.modulePath] s (.ok output) s' →
      output.exitCode = some 0 →
      Advances m (.probed program verb, s) (.built, s')
  | buildFails {s program verb output s'} :
      m.Invokes program [verb.name, m.config.modulePath] s (.ok output) s' →
      output.exitCode ≠ some 0 →
      Advances m (.probed program verb, s)
        (.ended (.error (.installCommandFailed output.stderr output.exitCode)), s')
  | noBuild {s program verb e s'} :
      m.Invokes program [verb.name, m.config.modulePath] s (.error e) s' →
      Advances m (.probed program verb, s) (.ended (.error e), s')
  | mark {s files} : s.files.writeText m.config.markerPath m.config.desiredVersion = .ok files →
      Advances m (.built, s) (.ended (.ok ()), { s with files })
  | noMark {s fault} : s.files.writeText m.config.markerPath m.config.desiredVersion = .error fault →
      Advances m (.built, s)
        (.ended (.error (.markerWriteFailed m.config.markerPath fault.message)), s)

variable {m : Manager}

theorem invokes_iff {program : String} {arguments : List String} {s s' : Machine}
    {result : Except InstallError Output} :
    m.Invokes program arguments s result s' ↔
      ((m.toolchain program).runSubcommand arguments).outcome s = (result, s') := by
  constructor
  · intro invokes
    cases invokes with
    | noScratch failed => exact Toolchain.runSubcommand_of_noScratch arguments failed
    | runs made ran => exact Toolchain.runSubcommand_of_scratch arguments made ran
  · intro outcome
    cases made : m.scratch.make s.calls s.files with
    | error reason =>
      rw [Toolchain.runSubcommand_of_noScratch (t := m.toolchain program) arguments made,
        Prod.mk.injEq] at outcome
      obtain ⟨rfl, rfl⟩ := outcome
      exact .noScratch made
    | ok scratch =>
      rw [Toolchain.runSubcommand_of_scratch (t := m.toolchain program) arguments made rfl,
        Prod.mk.injEq] at outcome
      obtain ⟨rfl, rfl⟩ := outcome
      exact .runs made rfl

theorem findToolchain_outcome (m : Manager) (s : Machine) :
    m.findToolchain.outcome s =
      ((m.runner.find s.calls s.files m.config.toolchain).elim
        (.error (.toolchainNotFound m.config.toolchain)) .ok,
        { s with calls := s.calls ++ [.find m.config.toolchain] }) := by
  rw [findToolchain, outcome_bind]
  cases found : m.runner.find s.calls s.files m.config.toolchain <;>
    simp [Toolchain.Runner.findProgram, Action.outcome, found] <;> rfl

theorem makeBaseDir_outcome (m : Manager) (s : Machine) :
    m.makeBaseDir.outcome s =
      ((s.files.makeDirectories m.config.baseDir).1.mapError fun fault =>
        .io ("Failed to create install directory '" ++ m.config.baseDir ++ "': " ++ fault.message),
        { s with files := (s.files.makeDirectories m.config.baseDir).2 }) := by
  unfold makeBaseDir Action.outcome
  beta_reduce
  rcases s.files.makeDirectories m.config.baseDir with ⟨_ | _, files⟩ <;> rfl

theorem version_outcome (t : Toolchain) (s : Machine) :
    t.version.outcome s =
      match (t.runSubcommand ["version"]).outcome s with
      | (.ok output, s) =>
        (if output.exitCode = some 0 then .ok (.parse output.stdout)
          else .error (.versionProbeFailed output.stderr output.exitCode), s)
      | (.error e, s) => (.error e, s) := by
  rw [Toolchain.version, outcome_bind]
  rcases (t.runSubcommand ["version"]).outcome s with ⟨_ | output, s⟩
  · rfl
  · by_cases zero : output.exitCode = some 0 <;> simp [Output.succeeded, zero]

theorem build_outcome (t : Toolchain) (verb : Verb) (module : String) (s : Machine) :
    (t.install verb module).outcome s =
      match (t.runSubcommand [verb.name, module]).outcome s with
      | (.ok output, s) =>
        (if output.exitCode = some 0 then .ok ()
          else .error (.installCommandFailed output.stderr output.exitCode), s)
      | (.error e, s) => (.error e, s) := by
  rw [Toolchain.install, outcome_bind]
  rcases (t.runSubcommand [verb.name, module]).outcome s with ⟨_ | output, s⟩
  · rfl
  · by_cases zero : output.exitCode = some 0 <;> simp [Output.succeeded, zero]

theorem writeMarker_outcome (m : Manager) (s : Machine) :
    m.writeMarker.outcome s =
      match s.files.writeText m.config.markerPath m.config.desiredVersion with
      | .ok files => (.ok (), { s with files })
      | .error fault => (.error (.markerWriteFailed m.config.markerPath fault.message), s) := by
  unfold writeMarker Action.outcome
  beta_reduce
  cases s.files.writeText m.config.markerPath m.config.desiredVersion <;> rfl

def remaining (m : Manager) : Stage → Action Unit
  | .begun => m.install
  | .found program => do
    m.makeBaseDir
    let version ← (m.toolchain program).version
    (m.toolchain program).install (.ofVersion version) m.config.modulePath
    m.writeMarker
  | .prepared program => do
    let version ← (m.toolchain program).version
    (m.toolchain program).install (.ofVersion version) m.config.modulePath
    m.writeMarker
  | .probed program verb => do
    (m.toolchain program).install verb m.config.modulePath
    m.writeMarker
  | .built => m.writeMarker
  | .ended (.ok ()) => pure ()
  | .ended (.error e) => throw e

theorem remaining_begun (m : Manager) :
    m.remaining .begun = m.findToolchain >>= fun program => m.remaining (.found program) := rfl

theorem remaining_found (m : Manager) (program : String) :
    m.remaining (.found program) = m.makeBaseDir >>= fun _ => m.remaining (.prepared program) := rfl

theorem remaining_prepared (m : Manager) (program : String) :
    m.remaining (.prepared program) =
      (m.toolchain program).version >>= fun version =>
        m.remaining (.probed program (.ofVersion version)) := by
  simp only [remaining]

theorem remaining_probed (m : Manager) (program : String) (verb : Verb) :
    m.remaining (.probed program verb) =
      (m.toolchain program).install verb m.config.modulePath >>= fun _ => m.remaining .built := rfl

@[simp] theorem remaining_ended (m : Manager) (result : Except InstallError Unit) (s : Machine) :
    (m.remaining (.ended result)).outcome s = (result, s) := by
  cases result <;> rfl

theorem Advances.outcome_eq {stage next : Stage} {s s' : Machine}
    (advances : m.Advances (stage, s) (next, s')) :
    (m.remaining stage).outcome s = (m.remaining next).outcome s' := by
  cases advances with
  | find found => simp only [remaining_begun, outcome_bind, findToolchain_outcome, found, Option.elim]
  | notFound found =>
    simp only [remaining_begun, outcome_bind, findToolchain_outcome, found, Option.elim, remaining_ended]
  | makeBase made => simp only [remaining_found, outcome_bind, makeBaseDir_outcome, made, Except.mapError]
  | noBase made =>
    simp only [remaining_found, outcome_bind, makeBaseDir_outcome, made, Except.mapError, remaining_ended]
  | probe invokes zero =>
    simp only [remaining_prepared, outcome_bind, version_outcome, invokes_iff.mp invokes, zero, if_true]
  | probeFails invokes failed =>
    simp only [remaining_prepared, outcome_bind, version_outcome, invokes_iff.mp invokes, failed,
      if_false, remaining_ended]
  | noProbe invokes =>
    simp only [remaining_prepared, outcome_bind, version_outcome, invokes_iff.mp invokes, remaining_ended]
  | build invokes zero =>
    simp only [remaining_probed, outcome_bind, build_outcome, invokes_iff.mp invokes, zero, if_true]
  | buildFails invokes failed =>
    simp only [remaining_probed, outcome_bind, build_outcome, invokes_iff.mp invokes, failed,
      if_false, remaining_ended]
  | noBuild invokes =>
    simp only [remaining_probed, outcome_bind, build_outcome, invokes_iff.mp invokes, remaining_ended]
  | mark written => simp only [remaining, writeMarker_outcome, written, Action.outcome_pure]
  | noMark written => simp only [remaining, writeMarker_outcome, written, Action.outcome_throw]

def Stage.left : Stage → Nat
  | begun => 5
  | found _ => 4
  | prepared _ => 3
  | probed .. => 2
  | built => 1
  | ended _ => 0

theorem Advances.left_lt {stage next : Stage} {s s' : Machine}
    (advances : m.Advances (stage, s) (next, s')) : next.left < stage.left := by
  cases advances <;> simp [Stage.left]

theorem advances_of_left_pos {stage : Stage} (more : 0 < stage.left) (s : Machine) :
    ∃ next s', m.Advances (stage, s) (next, s') := by
  cases stage with
  | begun =>
    cases found : m.runner.find s.calls s.files m.config.toolchain with
    | none => exact ⟨_, _, .notFound found⟩
    | some program => exact ⟨_, _, .find found⟩
  | found program =>
    rcases made : s.files.makeDirectories m.config.baseDir with ⟨fault | _, files⟩
    · exact ⟨_, _, .noBase made⟩
    · exact ⟨_, _, .makeBase made⟩
  | prepared program =>
    rcases ran : ((m.toolchain program).runSubcommand ["version"]).outcome s with ⟨e | output, s'⟩
    · exact ⟨_, _, .noProbe (invokes_iff.mpr ran)⟩
    · by_cases zero : output.exitCode = some 0
      · exact ⟨_, _, .probe (invokes_iff.mpr ran) zero⟩
      · exact ⟨_, _, .probeFails (invokes_iff.mpr ran) zero⟩
  | probed program verb =>
    rcases ran : ((m.toolchain program).runSubcommand [verb.name, m.config.modulePath]).outcome s with
      ⟨e | output, s'⟩
    · exact ⟨_, _, .noBuild (invokes_iff.mpr ran)⟩
    · by_cases zero : output.exitCode = some 0
      · exact ⟨_, _, .build (invokes_iff.mpr ran) zero⟩
      · exact ⟨_, _, .buildFails (invokes_iff.mpr ran) zero⟩
  | built =>
    cases written : s.files.writeText m.config.markerPath m.config.desiredVersion with
    | error fault => exact ⟨_, _, .noMark written⟩
    | ok files => exact ⟨_, _, .mark written⟩
  | ended => simp [Stage.left] at more

theorem exists_end (m : Manager) (stage : Stage) (s : Machine) :
    ∃ result s', Relation.ReflTransGen m.Advances (stage, s) (.ended result, s') := by
  induction left : stage.left using Nat.strong_induction_on generalizing stage s with
  | _ left ih =>
    by_cases more : 0 < stage.left
    · obtain ⟨next, s', advances⟩ := advances_of_left_pos (m := m) more s
      obtain ⟨result, last, steps⟩ := ih next.left (by rw [← left]; exact advances.left_lt) next s' rfl
      exact ⟨result, last, .head advances steps⟩
    · cases stage with
      | ended result => exact ⟨result, s, .refl⟩
      | _ => simp [Stage.left] at more

theorem outcome_of_steps {stage : Stage} {s s' : Machine} {result : Except InstallError Unit}
    (steps : Relation.ReflTransGen m.Advances (stage, s) (.ended result, s')) :
    (m.remaining stage).outcome s = (result, s') := by
  generalize begins : (stage, s) = first at steps
  induction steps using Relation.ReflTransGen.head_induction_on generalizing stage s with
  | refl =>
    cases begins
    exact remaining_ended m result s'
  | @head _ middle advances _ ih =>
    subst begins
    obtain ⟨next, s''⟩ := middle
    rw [advances.outcome_eq]
    exact ih rfl

theorem outcome_iff_steps (stage : Stage) (s s' : Machine) (result : Except InstallError Unit) :
    (m.remaining stage).outcome s = (result, s') ↔
      Relation.ReflTransGen m.Advances (stage, s) (.ended result, s') := by
  constructor
  · intro outcome
    -- the stages end somehow, and each of them keeps what the install comes to
    obtain ⟨other, last, steps⟩ := exists_end m stage s
    have same := (outcome_of_steps steps).symm.trans outcome
    obtain ⟨rfl, rfl⟩ : other = result ∧ last = s' := by simpa using same
    exact steps
  · exact outcome_of_steps

/-- All that the runner of an install may be asked. `probing` and `building` are the scratch
directory of a call and the files as they were when it was made. -/
def plan (m : Manager) (program : String) (verb : Verb) (probing building : String × FileTree) :
    List Call :=
  [.find m.config.toolchain,
   .run (m.command program ["version"] probing.1) probing.2,
   .run (m.command program [verb.name, m.config.modulePath] building.1) building.2]

inductive Asked (m : Manager) : Stage → List Call → Prop
  | begun : Asked m .begun []
  | found {program} : Asked m (.found program) [.find m.config.toolchain]
  | prepared {program} : Asked m (.prepared program) [.find m.config.toolchain]
  | probed {program verb} {probing : String × FileTree} :
      Asked m (.probed program verb)
        [.find m.config.toolchain, .run (m.command program ["version"] probing.1) probing.2]
  | built {program verb probing building} : Asked m .built (m.plan program verb probing building)
  | ended {program verb probing building result asked} :
      asked <+: m.plan program verb probing building → Asked m (.ended result) asked

theorem Invokes.calls {program : String} {arguments : List String} {s s' : Machine}
    {result : Except InstallError Output} (invokes : m.Invokes program arguments s result s') :
    (∃ call : String × FileTree,
      s'.calls = s.calls ++ [.run (m.command program arguments call.1) call.2]) ∨
      s'.calls = s.calls ∧ ∃ e, result = .error e := by
  cases invokes with
  | noScratch => exact .inr ⟨rfl, _, rfl⟩
  | runs => exact .inl ⟨⟨_, _⟩, rfl⟩

theorem Invokes.ran {program : String} {arguments : List String} {s s' : Machine} {output : Output}
    (invokes : m.Invokes program arguments s (.ok output) s') :
    ∃ call : String × FileTree,
      s'.calls = s.calls ++ [.run (m.command program arguments call.1) call.2] := by
  rcases invokes.calls with ran | ⟨-, e, failed⟩
  · exact ran
  · cases failed

theorem Asked.step {stage next : Stage} {s s' : Machine} {asked : List Call}
    (before : m.Asked stage asked) (advances : m.Advances (stage, s) (next, s')) :
    ∃ new, s'.calls = s.calls ++ new ∧ m.Asked next (asked ++ new) := by
  have other : String × FileTree := ("", s.files)
  cases advances with
  | find =>
    cases before
    exact ⟨_, rfl, .found⟩
  | notFound =>
    cases before
    exact ⟨_, rfl, .ended (show _ <+: m.plan "" .get other other from ⟨_, rfl⟩)⟩
  | @makeBase s program =>
    cases before
    exact ⟨[], (List.append_nil _).symm, .prepared⟩
  | @noBase s program =>
    cases before
    exact ⟨[], (List.append_nil _).symm,
      .ended (show _ <+: m.plan program .get other other from ⟨_, rfl⟩)⟩
  | probe invokes =>
    cases before
    obtain ⟨call, calls⟩ := invokes.ran
    exact ⟨_, calls, .probed⟩
  | @probeFails s program _ _ invokes =>
    cases before
    obtain ⟨call, calls⟩ := invokes.ran
    exact ⟨_, calls, .ended (show _ <+: m.plan program .get call other from ⟨_, rfl⟩)⟩
  | @noProbe s program _ _ invokes =>
    cases before
    rcases invokes.calls with ⟨call, calls⟩ | ⟨calls, -⟩
    · exact ⟨_, calls, .ended (show _ <+: m.plan program .get call other from ⟨_, rfl⟩)⟩
    · exact ⟨[], by rw [calls, List.append_nil],
        .ended (show _ <+: m.plan program .get other other from ⟨_, rfl⟩)⟩
  | @build s program verb _ _ invokes =>
    cases before with
    | @probed _ _ probing =>
      obtain ⟨call, calls⟩ := invokes.ran
      exact ⟨_, calls, show m.Asked .built (m.plan program verb probing call) from .built⟩
  | @buildFails s program verb _ _ invokes =>
    cases before with
    | @probed _ _ probing =>
      obtain ⟨call, calls⟩ := invokes.ran
      exact ⟨_, calls, .ended (show _ <+: m.plan program verb probing call from ⟨[], rfl⟩)⟩
  | @noBuild s program verb _ _ invokes =>
    cases before with
    | @probed _ _ probing =>
      rcases invokes.calls with ⟨call, calls⟩ | ⟨calls, -⟩
      · exact ⟨_, calls, .ended (show _ <+: m.plan program verb probing call from ⟨[], rfl⟩)⟩
      · exact ⟨[], by rw [calls, List.append_nil],
          .ended (show _ <+: m.plan program verb probing other from ⟨_, rfl⟩)⟩
  | mark =>
    cases before
    exact ⟨[], (List.append_nil _).symm, .ended ⟨[], rfl⟩⟩
  | noMark =>
    cases before
    exact ⟨[], (List.append_nil _).symm, .ended ⟨[], rfl⟩⟩

theorem Asked.steps {stage next : Stage} {s s' : Machine} {asked : List Call}
    (before : m.Asked stage asked) (steps : Relation.ReflTransGen m.Advances (stage, s) (next, s')) :
    ∃ new, s'.calls = s.calls ++ new ∧ m.Asked next (asked ++ new) := by
  generalize ends : (next, s') = last at steps
  induction steps generalizing next s' with
  | refl =>
    cases ends
    exact ⟨[], (List.append_nil _).symm, by rwa [List.append_nil]⟩
  | @tail middle _ _ advances ih =>
    subst ends
    obtain ⟨between, s''⟩ := middle
    obtain ⟨first, calls, asked⟩ := ih rfl
    obtain ⟨second, more, asked⟩ := asked.step advances
    refine ⟨first ++ second, by rw [more, calls, List.append_assoc], ?_⟩
    rwa [← List.append_assoc]

theorem not_steps_of_error {e : InstallError} {s s' : Machine} :
    ¬Relation.ReflTransGen m.Advances (.ended (.error e), s) (.ended (.ok ()), s') := by
  intro steps
  have same := (remaining_ended m (.error e) s).symm.trans (outcome_of_steps steps)
  simp at same

theorem steps_ok_iff {s s' : Machine} :
    Relation.ReflTransGen m.Advances (.begun, s) (.ended (.ok ()), s') ↔
      ∃ program verb s₁ s₂ s₃ s₄,
        m.Advances (.begun, s) (.found program, s₁) ∧
        m.Advances (.found program, s₁) (.prepared program, s₂) ∧
        m.Advances (.prepared program, s₂) (.probed program verb, s₃) ∧
        m.Advances (.probed program verb, s₃) (.built, s₄) ∧
        m.Advances (.built, s₄) (.ended (.ok ()), s') := by
  constructor
  · intro steps
    rcases steps.cases_head with same | ⟨⟨next, s₁⟩, finds, steps⟩
    · cases same
    obtain ⟨program, rfl⟩ : ∃ program, next = .found program := by
      cases finds with
      | find => exact ⟨_, rfl⟩
      | notFound => exact absurd steps not_steps_of_error
    rcases steps.cases_head with same | ⟨⟨next, s₂⟩, makes, steps⟩
    · cases same
    obtain rfl : next = .prepared program := by
      cases makes with
      | makeBase => rfl
      | noBase => exact absurd steps not_steps_of_error
    rcases steps.cases_head with same | ⟨⟨next, s₃⟩, probes, steps⟩
    · cases same
    obtain ⟨verb, rfl⟩ : ∃ verb, next = .probed program verb := by
      cases probes with
      | probe => exact ⟨_, rfl⟩
      | probeFails => exact absurd steps not_steps_of_error
      | noProbe => exact absurd steps not_steps_of_error
    rcases steps.cases_head with same | ⟨⟨next, s₄⟩, builds, steps⟩
    · cases same
    obtain rfl : next = .built := by
      cases builds with
      | build => rfl
      | buildFails => exact absurd steps not_steps_of_error
      | noBuild => exact absurd steps not_steps_of_error
    rcases steps.cases_head with same | ⟨⟨next, s₅⟩, marks, steps⟩
    · cases same
    have last := outcome_of_steps steps
    have ended : (next, s₅) = (.ended (.ok ()), s') := by
      cases marks with
      | mark => simpa [remaining] using last
      | noMark => exact absurd steps not_steps_of_error
    exact ⟨program, verb, s₁, s₂, s₃, s₄, finds, makes, probes, builds, ended ▸ marks⟩
  · rintro ⟨program, verb, s₁, s₂, s₃, s₄, finds, makes, probes, builds, marks⟩
    exact .head finds (.head makes (.head probes (.head builds (.single marks))))

/-- An install performs its stages in their order and stops at the first that fails; the runner is
asked for nothing else, and the install succeeds where each stage does. -/
theorem install_stages (m : Manager) (s : Machine) :
    (∀ result s', m.install.outcome s = (result, s') ↔
      Relation.ReflTransGen m.Advances (.begun, s) (.ended result, s')) ∧
    (∃ program verb probing building asked,
      (m.install.outcome s).2.calls = s.calls ++ asked ∧
        asked <+: m.plan program verb probing building) ∧
    ∀ s', m.install.outcome s = (.ok (), s') ↔
      ∃ program verb s₁ s₂ s₃ s₄,
        m.Advances (.begun, s) (.found program, s₁) ∧
        m.Advances (.found program, s₁) (.prepared program, s₂) ∧
        m.Advances (.prepared program, s₂) (.probed program verb, s₃) ∧
        m.Advances (.probed program verb, s₃) (.built, s₄) ∧
        m.Advances (.built, s₄) (.ended (.ok ()), s') := by
  have steps := outcome_iff_steps (m := m) .begun s
  refine ⟨fun result s' => steps s' result, ?_, fun s' => (steps s' _).trans steps_ok_iff⟩
  obtain ⟨new, calls, asked⟩ := Asked.begun.steps ((steps _ _).mp rfl)
  cases asked with
  | ended among => exact ⟨_, _, _, _, new, calls, among⟩

end Manager

end ServerKeeper
