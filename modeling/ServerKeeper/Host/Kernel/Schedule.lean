import ServerKeeper.Host.Image
import ServerKeeper.Host.Kernel.Calls

namespace ServerKeeper.Host

/-- How a native program begins: with the name of the tool, its arguments and its variables. -/
abbrev Launcher := String → List String → List (String × String) → Process

namespace Kernel

def execute (launch : Launcher) (pid : Nat) (path : String) (arguments : List String)
    (environment : List (String × String)) : Act (Except FileFault Process) := do
  let k ← get
  match Image.resolve k pid Image.maxInterpreters path arguments with
  | .error fault => return .error fault
  | .ok (tool, arguments) =>
    if Image.isOversized arguments environment then return .error .tooManyArguments
    else
      for d in (k.task pid).descriptors do
        if d.isPrivate then let _ ← close pid d.fd
      changeTask pid fun t =>
        { t with reactions := t.reactions.filter (·.2 = .ignore), pending := [] }
      return .ok (launch tool arguments environment)

/-- Lets a task do one thing. Gives what it does next, unless it has to wait or is at its end. -/
def turn (launch : Launcher) (pid : Nat) (p : Process) : Act (Option Process) := do
  match p with
  | .exit status =>
    finish pid (.exited (status % 256))
    return none
  | .fork child next => return some (next (← fork pid child))
  | .call (.execute path arguments environment) next =>
    match ← execute launch pid path arguments environment with
    | .ok p => return some p
    | .error fault => return some (next fault)
  | .call c next =>
    let reply ← answer pid c
    let t := (← get).task pid
    match t.ended, reply with
    | some how, _ =>
      finish pid how
      return none
    | none, some r => return some (next r)
    | none, none =>
      changeTask pid fun t => { t with process := p }
      modify fun k => { k with waiting := k.waiting ++ [pid] }
      return none

def nextWake (k : Kernel) : Option Moment :=
  (k.tasks.filterMap fun (_, t) =>
    match t.progress with
    | .sleeping wake => some wake
    | _ => none).min?

def isDone (k : Kernel) : Bool :=
  !k.isAlive 1 && k.files.all fun (_, f) =>
    match f.object with
    | .collector _ => false
    | _ => true

/-- Lets tasks wake up whose time has come, or those that sleep the shortest where nothing else goes
on. -/
def awaken (k : Kernel) : Kernel :=
  match k.nextWake with
  | none => k
  | some wake =>
    if k.ready.isEmpty || wake ≤ k.now then
      let clock := max k.clock wake
      { k with clock, busy := (k.now - clock).toNat, ready := k.ready ++ k.waiting, waiting := [] }
    else k

def pick : Act (Option (Nat × Process)) := do
  let k ← get
  let k :=
    if k.stirred then { k with ready := k.ready ++ k.waiting, waiting := [], stirred := false }
    else k
  let k := k.awaken
  match k.ready with
  | pid :: rest =>
    set { k with ready := rest }
    return some (pid, (k.task pid).process)
  | [] =>
    set k
    return none

def patience : Nat := 20000

def turnTime : Nat := 5000

def run (launch : Launcher) : Nat → Option (Nat × Process) → Nat → Kernel → Kernel
  | 0, _, _, k => k
  | fuel + 1, some (pid, p), left, k =>
    match left with
    | 0 =>
      let k := { k with
        tasks := k.tasks.change pid fun t => { t with process := p }
        ready := k.ready ++ [pid]
        stirred := true }
      run launch fuel none 0 k
    | left + 1 =>
      let (next, k) := (turn launch pid p).run k
      run launch fuel (next.map (pid, ·)) left k
  | fuel + 1, none, left, k =>
    if k.isDone then k
    else
      let k := { k with busy := k.busy + (patience - left) * turnTime }
      match pick.run k with
      | (some next, k) => run launch fuel (some next) patience k
      | (none, k) => k

def maxTurns : Nat := 1000000000000

end Kernel

end ServerKeeper.Host
