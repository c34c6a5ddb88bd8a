import ServerKeeper.Host.Process
import ServerKeeper.Host.ShownPath

namespace ServerKeeper.Tool

open Host

structure Desk where
  name : String
  title : String
  operands : String
  environment : List (String × String)
  status : Nat
  waiting : List String
  waitingSize : Nat
  lost : Option FileFault

abbrev Job (α : Type) := ExceptT Nat (StateT Desk Program) α

def maxRounds : Nat := 1000000000000

namespace Job

def ask (c : Call) : Job c.Reply := ExceptT.lift (StateT.lift (Program.ask c))

def stop {α : Type} (status : Nat) : Job α := throw status

def flush : Job Unit := do
  let d ← get
  if !d.waiting.isEmpty then
    set { d with waiting := [], waitingSize := 0 }
    match ← ask (.write 1 (String.join d.waiting.reverse)) with
    | .ok () => pure ()
    | .error fault => modify fun d => { d with lost := some fault }

def print (text : String) : Job Unit := do
  if !text.isEmpty then
    modify fun d =>
      { d with waiting := text :: d.waiting, waitingSize := d.waitingSize + text.utf8ByteSize }
    if (← get).waitingSize ≥ 4096 then
      flush
      if (← get).lost.isSome then throw 1

def setStatus (n : Nat) : Job Unit := modify fun d => { d with status := n }

def tell (text : String) : Job Unit := do
  flush
  let _ ← ask (.write 2 text)

def complainWith (status : Nat) (text : String) : Job Unit := do
  tell ((← get).name ++ ": " ++ text ++ "\n")
  setStatus status

def complain (text : String) : Job Unit := complainWith 1 text

def failWith {α : Type} (status : Nat) (text : String) : Job α := do
  complainWith status text
  throw status

def fail {α : Type} (text : String) : Job α := failWith 1 text

def hint {α : Type} (status : Nat) : Job α := do
  tell ("Try '" ++ (← get).name ++ " --help' for more information.\n")
  throw status

def misuseWith {α : Type} (status : Nat) (text : String) : Job α := do
  complainWith status text
  hint status

def misuse {α : Type} (text : String) : Job α := misuseWith 1 text

def tellVersion {α : Type} : Job α := do
  print ((← get).title ++ "\n")
  stop 0

def tellUsage {α : Type} : Job α := do
  print ("Usage: " ++ (← get).name ++ " " ++ (← get).operands ++ "\n")
  stop 0

def answerSole (arguments : List String) : Job Unit := do
  match arguments with
  | ["--version"] => tellVersion
  | ["--help"] => tellUsage
  | _ => pure ()

def attempt {α : Type} (a : Job α) : Job (Except Nat α) :=
  ExceptT.mk (Except.ok <$> ExceptT.run a)

def environmentValue? (name : String) : Job (Option String) := do
  return (← get).environment.lookup name

def openInput (path : String) : Job (Except FileFault Nat) := do
  if path == "-" then return .ok 0 else ask (.openFile path .toRead 0)

def closeInput (path : String) (fd : Nat) : Job Unit := do
  if path != "-" then
    let _ ← ask (.close fd)

def readOn (fd : Nat) : Nat → List String → Job (Except FileFault (List String))
  | 0, pieces => return .ok pieces
  | fuel + 1, pieces => do
    match ← ask (.read fd 65536) with
    | .ok piece => if piece.isEmpty then return .ok pieces else readOn fd fuel (piece :: pieces)
    | .error fault => return .error fault

def readRest (fd : Nat) : Job (Except FileFault String) := do
  return (← readOn fd maxRounds []).map fun pieces => String.join pieces.reverse

def readInput (path : String) : Job (Except FileFault String) := do
  match ← openInput path with
  | .error fault => return .error fault
  | .ok fd =>
    let r ← readRest fd
    closeInput path fd
    return r

def about (path : String) (fault : FileFault) : String :=
  ShownPath.plain path ++ ": " ++ fault.text

def blame (action path : String) (fault : FileFault) : Job Unit :=
  complain (action ++ " " ++ ShownPath.quoted path ++ ": " ++ fault.text)

/-- The process of work at a desk. What could not be written is complained about in the end. -/
def process (desk : Desk) (a : Job Unit) : Process :=
  let whole : Job Nat := do
    let r ← attempt a
    flush
    let status ← match r with
      | .ok () => pure (← get).status
      | .error status => pure status
    match (← get).lost with
    | none => return status
    | some fault =>
      let _ ← ask (.write 2 (desk.name ++ ": write error: " ++ fault.text ++ "\n"))
      return max status 1
  (ExceptT.run whole).run desk fun (r, _) =>
    match r with
    | .ok status => .exit status
    | .error status => .exit status

/-- Starts a process that does a piece of work at a desk like this one, and gives its number. -/
def fork (work : Job Unit) : Job Nat := do
  flush
  let desk : Desk := { ← get with status := 0, lost := none }
  ExceptT.lift (StateT.lift (Program.fork (process desk work)))

end Job

/-- A tool: its name, what it says of its version and of its arguments, and its work with those. -/
structure Utility where
  name : String
  title : String := name ++ " (GNU coreutils) 9.4"
  operands : String := "[OPTION]... [FILE]..."
  work : List String → Job Unit

def Utility.process (u : Utility) (name : String) (arguments : List String)
    (environment : List (String × String)) : Process :=
  Job.process ⟨name, u.title, u.operands, environment, 0, [], 0, none⟩ (u.work arguments)

end ServerKeeper.Tool
