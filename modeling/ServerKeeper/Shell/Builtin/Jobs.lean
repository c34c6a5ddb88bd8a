import ServerKeeper.Shell.Builtin.Basic

namespace ServerKeeper.Shell.Builtin

open Action Host

def jobState (j : Job) : String :=
  if j.isRunning then "Running"
  else
    match j.members.getLast?.bind (·.2) with
    | some (.exited 0) => "Done"
    | some (.exited n) => "Done(" ++ toString n ++ ")"
    | some (.killed n) => Signal.obituary n
    | none => ""

def jobLine (place : Nat) (withNumber : Bool) (j : Job) : String :=
  let sign := if place = 0 then "+" else if place = 1 then "-" else " "
  let pid := if withNumber then toString ((j.members.head?.map (·.1)).getD 0) ++ " " else ""
  let start := "[" ++ toString j.number ++ "] " ++ sign ++ " " ++ pid ++ jobState j
  let rest := (j.members.drop 1).map fun _ => " | "
  start ++ String.ofList (List.replicate (max 1 (33 - start.length)) ' ') ++ String.join rest ++
    "\n"

def findJob (text : String) : Action Job := do
  let jobs := (← get).jobs.reverse
  let noSuch {α : Type} : Action α := fail ("No such job: " ++ text)
  let current (n : Nat) (what : String) : Action Job :=
    match jobs[n]? with
    | some j => return j
    | none => fail ("No " ++ what ++ " job")
  if text == "%" || text == "%%" || text == "%+" then current 0 "current"
  else if text == "%-" then current 1 "previous"
  else
    match (text.drop 1).toString.toNat? with
    | some n =>
      match jobs.find? (·.number = n) with
      | some j => return j
      | none => noSuch
    | none => noSuch

def listJobs : Evaluator → Manner → List String → Action Nat := fun _ _ arguments => do
  let (found, arguments) ← options "lp" arguments
  noteAll maxRounds
  let s ← get
  let jobs := s.jobs.reverse
  let wanted ← if arguments.isEmpty then pure (jobs.map (·.number)) else arguments.mapM fun a => do
    pure (← findJob a).number
  let line (place : Nat) (j : Job) : String :=
    match found.getLast?.map (·.1) with
    | some 'p' => toString ((j.members.head?.map (·.1)).getD 0) ++ "\n"
    | kind => jobLine place (kind = some 'l') j
  let shown := jobs.zipIdx.filter fun (j, _) => wanted.contains j.number
  print (String.join (shown.map fun (j, place) => line place j))
  modify fun s =>
    { s with jobs := s.jobs.filter fun j => j.isRunning || !wanted.contains j.number }
  return 0

def waitUntil (test : List Job → Bool) (waited : List Nat) : Nat → Action (Option Nat)
  | 0 => return none
  | fuel + 1 => do
    collectSignals
    let s ← get
    match s.signals.min? with
    | some number => return some number
    | none =>
      if test s.jobs then return none
      else
        match ← ask (.wait none true true) with
        | .ended pid how =>
          if waited.contains pid then tellEnd how
          note pid how
          waitUntil test waited fuel
        | .interrupted => waitUntil test waited fuel
        | _ => return none

def waitEach : List String → Nat → Action Nat
  | [], status => return status
  | a :: rest, _ => do
    let job ←
      if a.startsWith "%" then some <$> findJob a
      else do
        let pid ← natural a
        pure ((← get).jobs.find? (·.last = pid))
    match job with
    | none => waitEach rest 127
    | some job =>
      let isOver (jobs : List Job) : Bool :=
        (jobs.find? (·.number = job.number)).all fun j => !j.isRunning
      match ← waitUntil isOver (job.members.map (·.1)) maxRounds with
      | some number => return 128 + number
      | none =>
        let jobs := (← get).jobs
        let finished := (jobs.find? (·.number = job.number)).getD job
        let known (j : Job) : Job := { j with isKnown := j.isKnown || j.number = job.number }
        modify fun s => { s with jobs := jobs.map known }
        waitEach rest ((finished.members.getLast?.bind (·.2)).elim 0 statusOf)

def wait : Evaluator → Manner → List String → Action Nat := fun _ _ arguments => do
  let arguments ← withoutOptions arguments
  if arguments.isEmpty then
    match ← waitUntil (fun jobs => jobs.all fun j => !j.isRunning) [] maxRounds with
    | some number => return 128 + number
    | none =>
      modify fun s => { s with jobs := s.jobs.map fun j => { j with isKnown := true } }
      return 0
  else waitEach arguments 127

def signalOf? (least : Nat) (text : String) : Option Nat :=
  if !text.isEmpty && text.all Char.isDigit then text.toNat?.filter (· ≤ Signal.greatest)
  else (Signal.number? text.toUpper).filter (least ≤ ·)

def killUsage : String :=
  "Usage: kill [-s sigspec | -signum | -sigspec] [pid | job]... or\nkill -l [exitstatus]"

def killEach (number : Nat) : List String → Nat → Action Nat
  | [], status => return status
  | a :: rest, status => do
    let answer ←
      if a.startsWith "%" then do
        let j ← findJob a
        ask (.signal ((j.members.head?.map (·.1)).getD 0) number)
      else if a.startsWith "-" then ask (.signalGroup (← natural (a.drop 1).toString) number)
      else
        match ← natural a with
        | 0 => ask (.signalGroup 0 number)
        | pid => ask (.signal pid number)
    match answer with
    | .ok () => killEach number rest status
    | .error fault =>
      complain (fault.text ++ "\n")
      killEach number rest 1

def listSignals (arguments : List String) : Action Nat := do
  match arguments with
  | [] =>
    let names := (List.range Signal.greatest).filterMap fun n => Signal.name? (n + 1)
    print ("0\n" ++ String.join (names.map (· ++ "\n")))
    return 0
  | a :: _ =>
    let n ← natural a
    let n := if n > 128 then n - 128 else n
    match if n = 0 then none else Signal.name? n with
    | some name =>
      print (name ++ "\n")
      return 0
    | none => fail ("invalid signal number or exit status: " ++ a)

def kill : Evaluator → Manner → List String → Action Nat := fun _ _ arguments => do
  let first := arguments.head?.getD ""
  let direct :=
    if first.startsWith "-" then signalOf? 1 (first.drop 1).toString else none
  let (number, lists, rest) ← match direct with
    | some n => pure (some n, false, arguments.drop 1)
    | none => do
      let (found, rest) ←
        if first.startsWith "-" then options "ls:" arguments else pure ([], arguments)
      let mut number := none
      for (letter, value) in found do
        if letter = 's' then
          match signalOf? 1 value with
          | some n => number := some n
          | none => fail ("invalid signal number or name: " ++ value)
      pure (number, found.any (·.1 = 'l'), rest)
  if lists then if number.isSome then fail killUsage else listSignals rest
  else if rest.isEmpty then fail killUsage
  else killEach (number.getD Signal.terminate) rest 0

def resume (name : String) : Evaluator → Manner → List String → Action Nat :=
  fun _ _ arguments => do
  let arguments ← withoutOptions arguments
  let _ ← findJob (arguments.head?.getD "%%")
  fail (name ++ ": job not created under job control")

def jobBuiltins : List Builtin :=
  [⟨"jobs", false, false, listJobs⟩, ⟨"wait", false, false, wait⟩, ⟨"kill", false, false, kill⟩,
   ⟨"fg", false, false, resume "fg"⟩, ⟨"bg", false, false, resume "bg"⟩]

end ServerKeeper.Shell.Builtin
