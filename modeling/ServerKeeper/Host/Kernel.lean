import ServerKeeper.Host.Process
import ServerKeeper.Host.Rearrange
import ServerKeeper.Host.Signal
import ServerKeeper.Host.Table

namespace ServerKeeper.Host

inductive PipeName
  | unnamed (n : Nat)
  | behind (node : Nat)
  deriving DecidableEq

inductive Object
  | node (n : Nat)
  | pipe (name : PipeName)
  | collector (index : Nat)

structure OpenFile where
  object : Object
  offset : Nat
  reads : Bool
  writes : Bool
  appends : Bool
  holders : Nat

instance : Inhabited OpenFile := ⟨⟨.collector 0, 0, false, false, false, 0⟩⟩

structure Pipe where
  bytes : ByteArray
  start : Nat
  readers : Nat
  writers : Nat

instance : Inhabited Pipe := ⟨⟨.empty, 0, 0, 0⟩⟩

namespace Pipe

def capacity : Nat := 65536

def size (p : Pipe) : Nat := p.bytes.size - p.start

def take (p : Pipe) (count : Nat) : ByteArray × Pipe :=
  let stop := min (p.start + count) p.bytes.size
  let taken := p.bytes.extract p.start stop
  (taken, if stop = p.bytes.size then { p with bytes := .empty, start := 0 }
    else { p with start := stop })

end Pipe

/-- A number that stands for an open file. A private one is closed when a program is executed. -/
structure Descriptor where
  fd : Nat
  file : Nat
  isPrivate : Bool

inductive Progress
  | none
  | unwritten (text : String)
  | opening (fd : Nat)
  | sleeping (wake : Moment)

structure Task where
  parent : Nat
  group : Nat
  niceness : Int
  process : Process
  descriptors : List Descriptor
  directory : Nat
  mask : Nat
  reactions : Table Nat Reaction
  pending : List Nat
  progress : Progress
  ended : Option Ending

instance : Inhabited Task := ⟨⟨0, 0, 0, default, [], 0, 0, [], [], .none, none⟩⟩

namespace Task

def find? (t : Task) (fd : Nat) : Option Nat :=
  (t.descriptors.find? (·.fd = fd)).map (·.file)

def freeFrom (t : Task) (least : Nat) : Nat :=
  let candidates := (List.range (t.descriptors.length + 1)).map (least + ·)
  (candidates.find? fun fd => (t.find? fd).isNone).getD least

def reaction (t : Task) (signal : Nat) : Reaction :=
  (t.reactions.lookup signal).getD .usual

end Task

structure Kernel where
  disk : Disk
  tasks : Table Nat Task
  files : Table Nat OpenFile
  pipes : Table PipeName Pipe
  collected : Table Nat ByteArray
  ready : List Nat
  waiting : List Nat
  stirred : Bool
  clock : Moment
  busy : Nat
  fresh : Nat

instance : Inhabited Kernel := ⟨⟨.empty, [], [], [], [], [], [], false, 0, 0, 1⟩⟩

namespace Kernel

abbrev Act (α : Type) := StateM Kernel α

def now (k : Kernel) : Moment := k.clock + k.busy

def task (k : Kernel) (pid : Nat) : Task := (k.tasks.lookup pid).getD default

def changeTask (pid : Nat) (f : Task → Task) : Act Unit :=
  modify fun k => { k with tasks := k.tasks.change pid f }

def stir : Act Unit := modify fun k => { k with stirred := true }

def freshNumber : Act Nat :=
  modifyGet fun k => (k.fresh, { k with fresh := k.fresh + 1 })

def changeDisk (f : Kernel → Except FileFault Disk) : Act (Except FileFault Unit) :=
  modifyGet fun k =>
    match f k with
    | .ok disk => (.ok (), { k with disk })
    | .error fault => (.error fault, k)

def changePipe (name : PipeName) (f : Pipe → Pipe) : Act Unit :=
  modify fun k =>
    { k with pipes := k.pipes.put name (f ((k.pipes.lookup name).getD default)), stirred := true }

def addEnds (count : Int) (f : OpenFile) : Act Unit := do
  match f.object with
  | .pipe name =>
    let more (n : Nat) (isEnd : Bool) : Nat := if isEnd then (n + count).toNat else n
    changePipe name fun p =>
      { p with readers := more p.readers f.reads, writers := more p.writers f.writes }
  | _ => pure ()

def install (pid : Nat) (f : OpenFile) : Act Nat := do
  let number ← freshNumber
  let fd := ((← get).task pid).freeFrom 0
  addEnds 1 f
  modify fun k => { k with files := k.files.put number { f with holders := 1 } }
  changeTask pid fun t => { t with descriptors := ⟨fd, number, false⟩ :: t.descriptors }
  return fd

def share (pid fd number : Nat) (isPrivate : Bool) : Act Unit := do
  modify fun k =>
    { k with files := k.files.change number fun f => { f with holders := f.holders + 1 } }
  changeTask pid fun t => { t with descriptors := ⟨fd, number, isPrivate⟩ :: t.descriptors }

def release (number : Nat) : Act Unit := do
  match (← get).files.lookup number with
  | none => pure ()
  | some f =>
    if f.holders ≤ 1 then
      modify fun k => { k with files := k.files.drop number }
      addEnds (-1) f
    else modify fun k => { k with files := k.files.put number { f with holders := f.holders - 1 } }

def close (pid fd : Nat) : Act Bool := do
  match ((← get).task pid).find? fd with
  | none => return false
  | some number =>
    changeTask pid fun t => { t with descriptors := t.descriptors.filter (·.fd ≠ fd) }
    release number
    return true

def fileOf (k : Kernel) (pid fd : Nat) : Option (Nat × OpenFile) := do
  let number ← (k.task pid).find? fd
  return (number, ← k.files.lookup number)

def statusOfNode (k : Kernel) (n : Nat) : FileStatus :=
  let node := k.disk.node n
  ⟨n, node.content, node.mode, node.owner, node.group, node.links, node.accessed, node.modified,
    node.changed⟩

def pipeNumbers : Nat := 1000000

def collectorNumbers : Nat := 900000

def statusOfFile (k : Kernel) (f : OpenFile) : FileStatus :=
  match f.object with
  | .node n => k.statusOfNode n
  | .pipe (.behind n) => k.statusOfNode n
  | .pipe (.unnamed n) => ⟨pipeNumbers + n, .queue, 0o600, 0, 0, 1, k.clock, k.clock, k.clock⟩
  | .collector i => ⟨collectorNumbers + i, .queue, 0o600, 0, 0, 1, k.clock, k.clock, k.clock⟩

def lookUp (k : Kernel) (pid : Nat) (followLast : Bool) (path : String) :
    Except FileFault (Nat ⊕ OpenFile) := do
  let n ← k.disk.existing (k.task pid).directory followLast path
  match k.disk.content n with
  | .descriptor fd =>
    match k.fileOf pid fd with
    | some (_, f) =>
      match f.object with
      | .node n => return .inl n
      | _ => return .inr f
    | none => throw .notFound
  | _ => return .inl n

def status (k : Kernel) (pid : Nat) (followLast : Bool) (path : String) :
    Except FileFault FileStatus := do
  match ← k.lookUp pid followLast path with
  | .inl n => return k.statusOfNode n
  | .inr f => return k.statusOfFile f

end Kernel

end ServerKeeper.Host
