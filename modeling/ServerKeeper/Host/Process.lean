import ServerKeeper.Host.Disk

namespace ServerKeeper.Host

inductive Ending
  | exited (status : Nat)
  | killed (signal : Nat)
  deriving DecidableEq, Repr

structure Opening where
  reads : Bool
  writes : Bool
  appends : Bool
  creates : Bool
  onlyNew : Bool
  empties : Bool

namespace Opening

def toRead : Opening := ⟨true, false, false, false, false, false⟩

def toWrite : Opening := ⟨false, true, false, true, false, true⟩

def toAppend : Opening := ⟨false, true, true, true, false, false⟩

end Opening

/-- What can be told about a node: its number, what it is, and the rest of its data. -/
structure FileStatus where
  number : Nat
  content : Content
  mode : Nat
  owner : Nat
  group : Nat
  links : Nat
  accessed : Moment
  modified : Moment
  changed : Moment

inductive News
  | ended (pid : Nat) (how : Ending)
  | running
  | nobody
  | interrupted

inductive Reaction
  | usual
  | ignore
  | notice
  deriving DecidableEq

inductive Call
  | openFile (path : String) (how : Opening) (mode : Nat)
  | close (fd : Nat)
  | save (fd least : Nat)
  | duplicate (fd target : Nat)
  | isOpen (fd : Nat)
  | isHeard (fd : Nat)
  | read (fd count : Nat)
  | readLine (fd : Nat)
  | write (fd : Nat) (text : String)
  | seek (fd : Nat) (offset : Nat)
  | skipBack (fd count : Nat)
  | truncate (fd size : Nat)
  | pipe
  | status (path : String) (followLast : Bool)
  | statusOf (fd : Nat)
  | list (path : String)
  | makeDirectory (path : String) (mode : Nat)
  | makeLink (path target : String)
  | makeQueue (path : String) (mode : Nat)
  | makeName (source path : String)
  | removeName (path : String)
  | removeDirectory (path : String)
  | move (source path : String)
  | readLink (path : String)
  | setMode (path : String) (mode : Nat)
  | setOwner (path : String) (followLast : Bool) (owner group : Option Nat)
  | setTimes (path : String) (followLast : Bool) (accessed modified : Option Moment)
  | changeDirectory (path : String)
  | here
  | setMask (mask : Nat)
  | execute (path : String) (arguments : List String) (environment : List (String × String))
  | wait (pid : Option Nat) (patiently heedsSignals : Bool)
  | signal (pid number : Nat)
  /-- Sends a signal to all of a group; number zero stands for the group that the process is in. -/
  | signalGroup (group number : Nat)
  | leadGroup
  | niceness
  | setNiceness (n : Int)
  | react (number : Nat) (reaction : Reaction)
  | reaction (number : Nat)
  | self
  | parent
  | clock
  | sleep (duration : Nat)
  | signals

/-- What a call is answered with. A program that was executed has no answer unless that fails. -/
@[reducible] def Call.Reply : Call → Type
  | openFile .. => Except FileFault Nat
  | close _ => Bool
  | save .. => Option Nat
  | duplicate .. => Bool
  | isOpen _ | isHeard _ => Bool
  | read .. | readLine _ => Except FileFault String
  | write .. | seek .. | skipBack .. | truncate .. => Except FileFault Unit
  | pipe => Nat × Nat
  | status .. | statusOf _ => Except FileFault FileStatus
  | list _ => Except FileFault (List String)
  | makeDirectory .. | makeLink .. | makeQueue .. | makeName .. => Except FileFault Unit
  | removeName _ | removeDirectory _ | move .. => Except FileFault Unit
  | readLink _ => Except FileFault String
  | setMode .. | setOwner .. | setTimes .. | changeDirectory _ => Except FileFault Unit
  | here => Option String
  | setMask _ => Nat
  | execute .. => FileFault
  | wait .. => News
  | signal .. | signalGroup .. => Except FileFault Unit
  | leadGroup | setNiceness _ => Unit
  | niceness => Int
  | react .. => Unit
  | reaction _ => Reaction
  | self | parent => Nat
  | clock => Moment
  | sleep _ => Bool
  | signals => List Nat

inductive Process
  | exit (status : Nat)
  | call (c : Call) (next : c.Reply → Process)
  | fork (child : Process) (next : Nat → Process)

instance : Inhabited Process := ⟨.exit 0⟩

def Program (α : Type) : Type := (α → Process) → Process

namespace Program

instance : Monad Program where
  pure a := fun next => next a
  bind p f := fun next => p fun a => f a next

def ask (c : Call) : Program c.Reply := fun next => .call c next

def fork (child : Process) : Program Nat := fun next => .fork child next

def process (p : Program Nat) : Process := p .exit

end Program

end ServerKeeper.Host
