import ServerKeeper.Host.Kernel
import ServerKeeper.Host.Kernel.Streams

namespace ServerKeeper.Host.Kernel

def fork (pid : Nat) (child : Process) : Act Nat := do
  let number ← freshNumber
  let t := (← get).task pid
  modify fun k =>
    { k with
      files := t.descriptors.foldl
        (fun fs d => fs.change d.file fun f => { f with holders := f.holders + 1 }) k.files
      tasks := k.tasks ++
        [(number, { t with parent := pid, process := child, pending := [], progress := .none })]
      ready := k.ready ++ [number] }
  return number

def outside : Nat := 0

def isAlive (k : Kernel) (pid : Nat) : Bool := (k.tasks.lookup pid).any (·.ended.isNone)

/-- Ends a task: all it has open is closed. Children that nobody can wait for any more are
forgotten. The first task of a run is kept for the caller. -/
def finish (pid : Nat) (how : Ending) : Act Unit := do
  let t := (← get).task pid
  for d in t.descriptors do release d.file
  changeTask pid fun t =>
    { t with ended := some how, descriptors := [], process := .exit 0, progress := .none }
  modify fun k =>
    let tasks := k.tasks.map fun (n, t) =>
      (n, if t.parent = pid then { t with parent := outside } else t)
    let isForgotten (t : Task) : Bool := t.parent = outside && t.ended.isSome
    { k with
      tasks := tasks.filter fun (n, t) => n = 1 || !isForgotten t
      ready := k.ready.filter (· ≠ pid)
      waiting := k.waiting.filter (· ≠ pid)
      stirred := true }

def wait (pid : Nat) (child : Option Nat) (patiently heedsSignals : Bool) : Act (Option News) := do
  let k ← get
  let children := k.tasks.filter fun (n, t) => t.parent = pid && n ≠ pid && child.all (· = n)
  if children.isEmpty then return some .nobody
  else
    match children.findSome? fun (n, t) => t.ended.map fun how => (n, how) with
    | some (n, how) =>
      set { k with tasks := k.tasks.drop n }
      return some (.ended n how)
    | none =>
      if heedsSignals && !(k.task pid).pending.isEmpty then return some .interrupted
      else if patiently then return none
      else return some .running

def deliver (target number : Nat) : Act Unit := do
  let t := (← get).task target
  if t.ended.isSome then pure ()
  else if number = Signal.kill then finish target (.killed number)
  else
    match t.reaction number with
    | .ignore => pure ()
    | .notice =>
      changeTask target fun t => { t with pending := t.pending ++ [number] }
      stir
    | .usual =>
      if Signal.isHarmless number || Signal.isStop number then pure ()
      else finish target (.killed number)

def signal (target number : Nat) : Act (Except FileFault Unit) := do
  let k ← get
  if (k.tasks.lookup target).isNone then return .error .noProcess
  else
    if number ≠ 0 then deliver target number
    return .ok ()

/-- Sends a signal to the tasks of a group; number zero stands for the group of the sender. -/
def signalGroup (pid group number : Nat) : Act (Except FileFault Unit) := do
  let k ← get
  let group := if group = 0 then (k.task pid).group else group
  let members := k.tasks.filter fun (_, t) => t.group = group
  if members.isEmpty then return .error .noProcess
  else
    if number ≠ 0 then
      for (n, _) in members do deliver n number
    return .ok ()

def takeSignals (pid : Nat) : Act (List Nat) := do
  let t := (← get).task pid
  if !t.pending.isEmpty then changeTask pid fun t => { t with pending := [] }
  return t.pending

def sleep (pid duration : Nat) : Act (Option Bool) := do
  let k ← get
  let t := k.task pid
  match t.progress with
  | .sleeping wake =>
    if wake ≤ k.clock || !t.pending.isEmpty then
      changeTask pid fun t => { t with progress := .none }
      return some (!t.pending.isEmpty)
    else return none
  | _ =>
    changeTask pid fun t => { t with progress := .sleeping (k.now + duration) }
    return none

def arrange (pid : Nat) (f : Disk → Moment → Nat → Except FileFault Disk) :
    Act (Except FileFault Unit) :=
  changeDisk fun k => f k.disk k.clock (k.task pid).directory

def maskOf (k : Kernel) (pid mode : Nat) : Nat := mode &&& (0o7777 ^^^ (k.task pid).mask)

def changeNode (pid : Nat) (followLast : Bool) (path : String) (f : Kernel → Node → Node) :
    Act (Except FileFault Unit) := do
  let k ← get
  match k.lookUp pid followLast path with
  | .error fault => return .error fault
  | .ok (.inr _) => return .ok ()
  | .ok (.inl n) =>
    set { k with disk := k.disk.update n (f k) }
    return .ok ()

def list (k : Kernel) (pid : Nat) (path : String) : Except FileFault (List String) := do
  let n ← k.disk.existing (k.task pid).directory true path
  match k.disk.content n with
  | .directory _ names => return names.map (·.1)
  | _ => throw .notADirectory

def readLink (k : Kernel) (pid : Nat) (path : String) : Except FileFault String := do
  let n ← k.disk.existing (k.task pid).directory false path
  match k.disk.content n with
  | .link target => return target
  | .descriptor fd => return "/proc/self/fd/" ++ toString fd
  | _ => throw .invalidArgument

def changeDirectory (pid : Nat) (path : String) : Act (Except FileFault Unit) := do
  let k ← get
  match k.disk.existing (k.task pid).directory true path with
  | .error fault => return .error fault
  | .ok n =>
    if (k.disk.content n).isDirectory then
      changeTask pid fun t => { t with directory := n }
      return .ok ()
    else return .error .notADirectory

def answer (pid : Nat) : (c : Call) → Act (Option c.Reply)
  | .openFile path how mode => openFile pid path how mode
  | .close fd => some <$> close pid fd
  | .save fd least => some <$> save pid fd least
  | .duplicate fd target => some <$> duplicate pid fd target
  | .isOpen fd => return some (((← get).task pid).find? fd).isSome
  | .isHeard fd => return some ((← get).isHeard pid fd)
  | .read fd count => read pid fd (.upTo count)
  | .readLine fd => read pid fd .line
  | .write fd text => write pid fd text
  | .seek fd offset => some <$> seek pid fd fun _ => offset
  | .skipBack fd count => some <$> seek pid fd (· - count)
  | .truncate fd size => some <$> truncate pid fd size
  | .pipe => some <$> makePipe pid
  | .status path followLast => return some ((← get).status pid followLast path)
  | .statusOf fd => do
    let k ← get
    return some ((k.fileOf pid fd).elim (.error .badDescriptor) fun (_, f) =>
      .ok (k.statusOfFile f))
  | .list path => return some ((← get).list pid path)
  | .makeDirectory path mode => do
    let mode := (← get).maskOf pid mode
    some <$> arrange pid fun d now here => d.makeDirectory now here path mode
  | .makeLink path target =>
    some <$> arrange pid fun d now here => d.makeNode now here path (.link target) 0o777
  | .makeQueue path mode => do
    let mode := (← get).maskOf pid mode
    some <$> arrange pid fun d now here => d.makeNode now here path .queue mode
  | .makeName source path =>
    some <$> arrange pid fun d now here => d.makeName now here source path
  | .removeName path => some <$> arrange pid fun d now here => d.removeName now here path
  | .removeDirectory path => some <$> arrange pid fun d now here => d.removeDirectory now here path
  | .move source path => some <$> arrange pid fun d now here => d.move now here source path
  | .readLink path => return some ((← get).readLink pid path)
  | .setMode path mode =>
    some <$> changeNode pid true path fun k node => { node with mode, changed := k.clock }
  | .setOwner path followLast owner group => do
    let k ← get
    match k.lookUp pid followLast path with
    | .error fault => return some (.error fault)
    | .ok (.inr _) => return some (.ok ())
    | .ok (.inl n) =>
      set { k with disk := k.disk.setOwner k.clock n owner group }
      return some (.ok ())
  | .setTimes path followLast accessed modified =>
    some <$> changeNode pid followLast path fun k node =>
      { node with
        accessed := accessed.getD node.accessed
        modified := modified.getD node.modified
        changed := k.clock }
  | .changeDirectory path => some <$> changeDirectory pid path
  | .here => do
    let k ← get
    return some (k.disk.locate (k.task pid).directory)
  | .setMask mask => do
    let old := ((← get).task pid).mask
    changeTask pid fun t => { t with mask }
    return some old
  | .execute .. => return some .notExecutableFormat
  | .wait child patiently heedsSignals => wait pid child patiently heedsSignals
  | .signal target number => some <$> signal target number
  | .signalGroup group number => some <$> signalGroup pid group number
  | .leadGroup => do
    changeTask pid fun t => { t with group := pid }
    return some ()
  | .niceness => return some ((← get).task pid).niceness
  | .setNiceness n => do
    changeTask pid fun t => { t with niceness := max (-20) (min n 19) }
    return some ()
  | .react number reaction => do
    changeTask pid fun t => { t with reactions := t.reactions.put number reaction }
    return some ()
  | .reaction number => return some (((← get).task pid).reaction number)
  | .self => return some pid
  | .parent => return some ((← get).task pid).parent
  | .clock => return some (← get).now
  | .sleep duration => sleep pid duration
  | .signals => some <$> takeSignals pid

end ServerKeeper.Host.Kernel
