import ServerKeeper.Lifecycle

namespace ServerKeeper

variable {σ : Type}

inductive Query
  | needsInstall (answer : Bool)
  | install (answer : Except InstallError Unit)

def ManagedServer.recorded (s : ManagedServer σ) : ManagedServer (σ × List Query) where
  name := s.name
  needsInstall := fun (server, asked) =>
    let (answer, server) := s.needsInstall server
    (answer, server, asked ++ [.needsInstall answer])
  install := fun (server, asked) =>
    let (answer, server) := s.install server
    (answer, server, asked ++ [.install answer])

namespace Lifecycle

inductive Step
  | check
  | activate
  deriving DecidableEq

def step (s : ManagedServer σ) (l : Lifecycle σ) :
    Step → Except InstallError LifecycleState × Lifecycle σ
  | .check => (.ok (l.check s).1, (l.check s).2)
  | .activate => l.activate s

def run (s : ManagedServer σ) (l : Lifecycle σ) (steps : List Step) : Lifecycle σ :=
  steps.foldl (fun l step => (l.step s step).2) l

def recording (l : Lifecycle σ) (asked : List Query) : Lifecycle (σ × List Query) :=
  { l with server := (l.server, asked) }

structure Turn where
  step : Step
  asked : List Query
  reports : List (String × LifecycleState)
  result : Except InstallError LifecycleState
  state : LifecycleState

def turn (s : ManagedServer σ) (l : Lifecycle σ) (step : Step) : Turn where
  step := step
  asked := ((l.recording []).step s.recorded step).2.server.2
  reports := (l.step s step).2.events.drop l.events.length
  result := (l.step s step).1
  state := (l.step s step).2.state

def turns (s : ManagedServer σ) : Lifecycle σ → List Step → List Turn
  | _, [] => []
  | l, step :: steps => l.turn s step :: turns s (l.step s step).2 steps

def found (needed : Bool) : LifecycleState :=
  if needed then .needsInstall else .upToDate

inductive Regular (s : ManagedServer σ) (server : σ) : Turn → σ → Prop
  | checked {needed left} : s.needsInstall server = (needed, left) →
      Regular s server ⟨.check, [.needsInstall needed], [(s.name, found needed)],
        .ok (found needed), found needed⟩ left
  | upToDate {left} : s.needsInstall server = (false, left) →
      Regular s server ⟨.activate, [.needsInstall false], [(s.name, .upToDate)],
        .ok .upToDate, .upToDate⟩ left
  | installed {asked left} : s.needsInstall server = (true, asked) →
      s.install asked = (.ok (), left) →
      Regular s server ⟨.activate, [.needsInstall true, .install (.ok ())],
        [(s.name, .needsInstall), (s.name, .upToDate)], .ok .upToDate, .upToDate⟩ left
  | failed {asked left e} : s.needsInstall server = (true, asked) →
      s.install asked = (.error e, left) →
      Regular s server ⟨.activate, [.needsInstall true, .install (.error e)],
        [(s.name, .needsInstall), (s.name, .error e.message)], .error e, .error e.message⟩ left

/-- Steps that each go in one of these ways, with the server before the first and after the last. -/
inductive History (s : ManagedServer σ) : σ → List Turn → σ → Prop
  | none {server} : History s server [] server
  | step {server turn between turns left} : Regular s server turn between →
      History s between turns left → History s server (turn :: turns) left

variable {s : ManagedServer σ} {l : Lifecycle σ}

theorem check_eq {needed : Bool} {left : σ} (answer : s.needsInstall l.server = (needed, left)) :
    l.check s = (found needed, ⟨left, found needed, l.events ++ [(s.name, found needed)]⟩) := by
  simp only [check, answer, transition, found]

theorem activate_upToDate {left : σ} (answer : s.needsInstall l.server = (false, left)) :
    l.activate s = (.ok .upToDate, ⟨left, .upToDate, l.events ++ [(s.name, .upToDate)]⟩) := by
  rw [activate, check_eq answer]
  rfl

theorem activate_installed {asked left : σ} (answer : s.needsInstall l.server = (true, asked))
    (installs : s.install asked = (.ok (), left)) :
    l.activate s = (.ok .upToDate,
      ⟨left, .upToDate, l.events ++ [(s.name, .needsInstall), (s.name, .upToDate)]⟩) := by
  rw [activate, check_eq answer]
  simp [found, installs, transition]

theorem activate_failed {asked left : σ} {e : InstallError}
    (answer : s.needsInstall l.server = (true, asked)) (fails : s.install asked = (.error e, left)) :
    l.activate s = (.error e,
      ⟨left, .error e.message, l.events ++ [(s.name, .needsInstall), (s.name, .error e.message)]⟩) := by
  rw [activate, check_eq answer]
  simp [found, fails, transition]

theorem recorded_needsInstall {server left : σ} {needed : Bool}
    (answer : s.needsInstall server = (needed, left)) (record : List Query) :
    s.recorded.needsInstall (server, record) = (needed, left, record ++ [.needsInstall needed]) := by
  simp only [ManagedServer.recorded, answer]

theorem recorded_install {server left : σ} {result : Except InstallError Unit}
    (answer : s.install server = (result, left)) (record : List Query) :
    s.recorded.install (server, record) = (result, left, record ++ [.install result]) := by
  simp only [ManagedServer.recorded, answer]

theorem Regular.step_eq {turn : Turn} {left : σ} (regular : Regular s l.server turn left) :
    l.step s turn.step = (turn.result, ⟨left, turn.state, l.events ++ turn.reports⟩) := by
  cases regular with
  | checked answer => rw [step, check_eq answer]
  | upToDate answer => exact activate_upToDate answer
  | installed answer installs => exact activate_installed answer installs
  | failed answer fails => exact activate_failed answer fails

theorem Regular.recorded {turn : Turn} {left : σ} (regular : Regular s l.server turn left)
    (record : List Query) :
    (l.recording record).step s.recorded turn.step =
      (turn.result, ⟨(left, record ++ turn.asked), turn.state, l.events ++ turn.reports⟩) := by
  cases regular with
  | checked answer =>
    have recorded := recorded_needsInstall answer record
    rw [step, check_eq (l := l.recording record) recorded]
    rfl
  | upToDate answer =>
    have recorded := recorded_needsInstall answer record
    exact activate_upToDate (l := l.recording record) recorded
  | installed answer installs =>
    have recorded := recorded_needsInstall answer record
    have installed := recorded_install installs (record ++ [.needsInstall true])
    have whole := activate_installed (l := l.recording record) recorded installed
    rwa [List.append_assoc] at whole
  | failed answer fails =>
    have recorded := recorded_needsInstall answer record
    have failed := recorded_install fails (record ++ [.needsInstall true])
    have whole := activate_failed (l := l.recording record) recorded failed
    rwa [List.append_assoc] at whole

theorem exists_regular (s : ManagedServer σ) (server : σ) (step : Step) :
    ∃ turn left, turn.step = step ∧ Regular s server turn left := by
  rcases answer : s.needsInstall server with ⟨needed, asked⟩
  cases step with
  | check => exact ⟨_, _, rfl, .checked answer⟩
  | activate =>
    cases needed with
    | false => exact ⟨_, _, rfl, .upToDate answer⟩
    | true =>
      rcases installs : s.install asked with ⟨e | _, left⟩
      · exact ⟨_, _, rfl, .failed answer installs⟩
      · exact ⟨_, _, rfl, .installed answer installs⟩

theorem Regular.turn_eq {turn : Turn} {left : σ} (regular : Regular s l.server turn left) :
    l.turn s turn.step = turn := by
  simp only [Lifecycle.turn, regular.step_eq, regular.recorded [], List.nil_append,
    List.drop_left]

theorem turn_regular (s : ManagedServer σ) (l : Lifecycle σ) (step : Step) :
    Regular s l.server (l.turn s step) (l.step s step).2.server := by
  obtain ⟨turn, left, rfl, regular⟩ := exists_regular s l.server step
  rw [regular.turn_eq, regular.step_eq]
  exact regular

theorem step_eq_turn (s : ManagedServer σ) (l : Lifecycle σ) (step : Step) :
    l.step s step = ((l.turn s step).result,
      ⟨(l.step s step).2.server, (l.turn s step).state, l.events ++ (l.turn s step).reports⟩) :=
  (turn_regular s l step).step_eq

theorem turn_congr {l other : Lifecycle σ} (same : l.server = other.server) (step : Step) :
    l.turn s step = other.turn s step ∧
      (l.step s step).2.server = (other.step s step).2.server := by
  obtain ⟨turn, left, rfl, regular⟩ := exists_regular s l.server step
  have again : Regular s other.server turn left := same ▸ regular
  rw [regular.turn_eq, again.turn_eq, regular.step_eq, again.step_eq]
  exact ⟨rfl, rfl⟩

theorem turns_congr {l other : Lifecycle σ} (same : l.server = other.server) (steps : List Step) :
    l.turns s steps = other.turns s steps := by
  induction steps generalizing l other with
  | nil => rfl
  | cons step steps ih =>
    obtain ⟨now, left⟩ := turn_congr (s := s) same step
    rw [turns, turns, now, ih left]

theorem history_turns (s : ManagedServer σ) (l : Lifecycle σ) (steps : List Step) :
    History s l.server (l.turns s steps) (l.run s steps).server := by
  induction steps generalizing l with
  | nil => exact .none
  | cons step steps ih => exact .step (turn_regular s l step) (ih _)

theorem map_step_turns (s : ManagedServer σ) (l : Lifecycle σ) (steps : List Step) :
    (l.turns s steps).map Turn.step = steps := by
  induction steps generalizing l with
  | nil => rfl
  | cons step steps ih => rw [turns, List.map_cons, ih]; rfl

theorem events_run (s : ManagedServer σ) (l : Lifecycle σ) (steps : List Step) :
    (l.run s steps).events = l.events ++ (l.turns s steps).flatMap Turn.reports := by
  induction steps generalizing l with
  | nil => simp [run, turns]
  | cons step steps ih =>
    have first : l.run s (step :: steps) = (l.step s step).2.run s steps := rfl
    have now : (l.step s step).2.events = l.events ++ (l.turn s step).reports :=
      congrArg (·.2.events) (step_eq_turn s l step)
    rw [first, ih, now, turns, List.flatMap_cons, List.append_assoc]

theorem step_recorded (s : ManagedServer σ) (l : Lifecycle σ) (record : List Query) (step : Step) :
    ((l.recording record).step s.recorded step).2 =
      (l.step s step).2.recording (record ++ (l.turn s step).asked) := by
  obtain ⟨turn, left, rfl, regular⟩ := exists_regular s l.server step
  rw [regular.recorded, regular.step_eq, regular.turn_eq]
  rfl

theorem run_recorded (s : ManagedServer σ) (l : Lifecycle σ) (record : List Query)
    (steps : List Step) :
    (l.recording record).run s.recorded steps =
      (l.run s steps).recording (record ++ (l.turns s steps).flatMap Turn.asked) := by
  induction steps generalizing l record with
  | nil => simp [run, turns]
  | cons step steps ih =>
    have first : (l.recording record).run s.recorded (step :: steps) =
      ((l.recording record).step s.recorded step).2.run s.recorded steps := rfl
    rw [first, step_recorded, ih, turns, List.flatMap_cons, List.append_assoc]
    rfl

theorem state_run (s : ManagedServer σ) (l : Lifecycle σ) (steps : List Step) :
    (l.run s steps).state = ((l.turns s steps).getLast?.map Turn.state).getD l.state := by
  induction steps generalizing l with
  | nil => rfl
  | cons step steps ih =>
    have first : l.run s (step :: steps) = (l.step s step).2.run s steps := rfl
    have now : (l.step s step).2.state = (l.turn s step).state := rfl
    rw [first, ih, now, turns, List.getLast?_cons]
    cases (turns s (l.step s step).2 steps).getLast? <;> rfl

theorem History.regular {server left : σ} {turns : List Turn} (history : History s server turns left)
    {turn : Turn} (among : turn ∈ turns) : ∃ before after, Regular s before turn after := by
  induction history with
  | none => exact absurd among List.not_mem_nil
  | step regular _ ih =>
    rcases List.mem_cons.mp among with rfl | among
    · exact ⟨_, _, regular⟩
    · exact ih among

theorem Regular.last_report {server left : σ} {turn : Turn} (regular : Regular s server turn left) :
    ∃ before, turn.reports = before ++ [(s.name, turn.state)] := by
  cases regular with
  | checked | upToDate => exact ⟨[], rfl⟩
  | installed | failed => exact ⟨[_], rfl⟩

theorem Regular.reported {server left : σ} {turn : Turn} (regular : Regular s server turn left) :
    ∀ report ∈ turn.reports, report.1 = s.name ∧ report.2 ≠ .notChecked := by
  cases regular with
  | @checked needed => cases needed <;> simp [found]
  | upToDate | installed | failed => simp

theorem Regular.state_eq_error {server left : σ} {turn : Turn}
    (regular : Regular s server turn left) (reason : String) :
    turn.state = .error reason ↔
      turn.step = .activate ∧ ∃ e, turn.result = .error e ∧ e.message = reason := by
  cases regular with
  | @checked needed => cases needed <;> simp [found]
  | upToDate | installed => simp
  | failed => simp

theorem Regular.state_ne_notChecked {server left : σ} {turn : Turn}
    (regular : Regular s server turn left) : turn.state ≠ .notChecked := by
  obtain ⟨before, reports⟩ := regular.last_report
  have last : (s.name, turn.state) ∈ turn.reports := by simp [reports]
  exact (regular.reported _ last).2

def LastReported (l : Lifecycle σ) : Prop :=
  l.state = (l.events.getLast?.map Prod.snd).getD .notChecked

theorem lastReported_step (s : ManagedServer σ) (l : Lifecycle σ) (step : Step) :
    (l.step s step).2.LastReported := by
  obtain ⟨before, reports⟩ := (turn_regular s l step).last_report
  rw [step_eq_turn, LastReported, reports, ← List.append_assoc, List.getLast?_concat]
  rfl

theorem lastReported_run (s : ManagedServer σ) {l : Lifecycle σ} (reported : l.LastReported)
    (steps : List Step) : (l.run s steps).LastReported := by
  induction steps generalizing l with
  | nil => exact reported
  | cons step steps ih => exact ih (lastReported_step s l step)

/-- A life keeps to its history: step by step it asks, installs and reports in one of the four ways,
its state is the one reported last, and what was before a step has no say in it. -/
theorem life_history (s : ManagedServer σ) (server : σ) (steps : List Step) :
    let l := (start server).run s steps
    let past := (start server).turns s steps
    past.map Turn.step = steps ∧
    History s server past l.server ∧
    ((start server).recording []).run s.recorded steps = l.recording (past.flatMap Turn.asked) ∧
    l.events = past.flatMap Turn.reports ∧
    (∀ report ∈ l.events, report.1 = s.name ∧ report.2 ≠ .notChecked) ∧
    l.LastReported ∧
    (l.state = .notChecked ↔ steps = []) ∧
    (∀ reason, l.state = .error reason ↔ ∃ turn e, past.getLast? = some turn ∧
      turn.step = .activate ∧ turn.result = .error e ∧ e.message = reason) ∧
    ∀ state events later, turns s { l with state, events } later = l.turns s later := by
  intro l past
  have history : History s server past l.server := history_turns s (start server) steps
  have asSteps : past.map Turn.step = steps := map_step_turns s (start server) steps
  have events : l.events = past.flatMap Turn.reports := events_run s (start server) steps
  have state : l.state = (past.getLast?.map Turn.state).getD .notChecked :=
    state_run s (start server) steps
  have reported : l.LastReported := lastReported_run s (l := start server) rfl steps
  refine ⟨asSteps, history, run_recorded s (start server) [] steps, events, ?_, reported, ?_, ?_, ?_⟩
  · intro report among
    rw [events, List.mem_flatMap] at among
    obtain ⟨turn, member, among⟩ := among
    obtain ⟨_, _, regular⟩ := history.regular member
    exact regular.reported report among
  · cases last : past.getLast? with
    | none =>
      have empty : past = [] := List.getLast?_eq_none_iff.mp last
      rw [state, last, ← asSteps, empty]
      simp
    | some turn =>
      have member := List.mem_of_getLast? last
      obtain ⟨_, _, regular⟩ := history.regular member
      have taken : steps ≠ [] := by
        rw [← asSteps, Ne, List.map_eq_nil_iff]
        exact List.ne_nil_of_mem member
      rw [state, last]
      exact iff_of_false regular.state_ne_notChecked taken
  · intro reason
    cases last : past.getLast? with
    | none => simp [state, last]
    | some turn =>
      obtain ⟨_, _, regular⟩ := history.regular (List.mem_of_getLast? last)
      have failed := regular.state_eq_error reason
      rw [state, last, Option.map_some, Option.getD_some, failed]
      simp
  -- a turn reads nothing of a life but its server
  · intro state events later
    apply turns_congr
    rfl

end Lifecycle

end ServerKeeper
