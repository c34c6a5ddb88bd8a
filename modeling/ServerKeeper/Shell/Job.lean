import ServerKeeper.Host.Signal
import ServerKeeper.Shell.Session

namespace ServerKeeper.Shell

open Host

def maxRounds : Nat := 1000000000000

namespace Action

inductive Errand
  | foreground
  | background
  | help
  deriving DecidableEq

def isIgnored (traps : Table Nat String) (number : Nat) : Bool := traps.lookup number = some ""

/-- Makes a session that of a new process: the traps and the jobs are those of the old one. -/
def becomeChild (errand : Errand) (isOnlyMember : Bool) : Action Unit := do
  let s ← get
  for (number, action) in s.traps do
    if action ≠ "" && number ≠ 0 then ask (.react number .usual)
  set { s with
    isFirst := false
    traps := s.traps.filter (·.2 == "")
    jobs := []
    signals := [] }
  if errand = .background then
    ask (.react Signal.interrupt .ignore)
    ask (.react Signal.quit .ignore)
    if isOnlyMember then
      let _ ← ask (.close 0)
      let _ ← ask (.openFile "/dev/null" .toRead 0)

def claimNumber : Action Nat := do
  let s ← get
  let rec go : Nat → Nat → List Job → Nat × List Job
    | 0, n, jobs => (n, jobs)
    | fuel + 1, n, jobs =>
      match jobs.find? (·.number = n) with
      | none => (n, jobs)
      | some j =>
        if j.isRunning || !j.isKnown then go fuel (n + 1) jobs
        else (n, jobs.filter (·.number ≠ n))
  let (n, jobs) := go (s.jobs.length + 1) 1 s.jobs
  set { s with jobs }
  return n

def noteIn (pid : Nat) (how : Ending) (members : List (Nat × Option Ending)) :
    List (Nat × Option Ending) :=
  members.map fun (n, h) => (n, if n = pid && h.isNone then some how else h)

def note (pid : Nat) (how : Ending) : Action Unit :=
  modify fun s =>
    { s with jobs := s.jobs.map fun j => { j with members := noteIn pid how j.members } }

def tellEnd (how : Ending) : Action Unit := do
  match how with
  | .exited _ => pure ()
  | .killed n =>
    if n ≠ Signal.interrupt && n ≠ Signal.brokenPipe then
      let _ ← write 2 (Signal.obituary n ++ "\n")

def awaitFrom : Nat → List (Nat × Option Ending) → Action Nat
  | 0, _ => return 0
  | fuel + 1, members =>
    if members.any fun (_, how) => how.isNone then do
      match ← ask (.wait none true false) with
      | .ended pid how =>
        if members.any (·.1 = pid) then
          tellEnd how
          awaitFrom fuel (noteIn pid how members)
        else
          note pid how
          awaitFrom fuel members
      | _ => return 0
    else return (members.getLast?.bind (·.2)).elim 0 statusOf

def await (pids : List Nat) : Action Nat := awaitFrom maxRounds (pids.map (·, none))

def noteAll : Nat → Action Unit
  | 0 => pure ()
  | fuel + 1 => do
    match ← ask (.wait none false false) with
    | .ended pid how =>
      note pid how
      noteAll fuel
    | _ => pure ()

def leaveBehind (number : Nat) (pids : List Nat) : Action Unit :=
  modify fun s =>
    { s with
      background := pids.getLast?
      jobs := s.jobs ++ [⟨number, pids.map (·, none), false⟩] }

def readAll (fd : Nat) : Nat → String → Action String
  | 0, text => return text
  | fuel + 1, text => do
    match ← ask (.read fd 65536) with
    | .ok more => if more.isEmpty then return text else readAll fd fuel (text ++ more)
    | .error _ => return text

def moveTo (fd target : Nat) : Action Unit := do
  if fd ≠ target then
    let _ ← ask (.duplicate fd target)
    let _ ← ask (.close fd)

def captured (a : Action Nat) : Action (String × Nat) := do
  let _ ← claimNumber
  let (reader, writer) ← ask .pipe
  let child ← fork do
    becomeChild .help true
    let _ ← ask (.close reader)
    moveTo writer 1
    a
  let _ ← ask (.close writer)
  let text ← readAll reader maxRounds ""
  let _ ← ask (.close reader)
  return (text, ← await [child])

end Action

end ServerKeeper.Shell
