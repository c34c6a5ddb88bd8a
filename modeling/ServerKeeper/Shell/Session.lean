import ServerKeeper.Host.Process
import ServerKeeper.Host.Table
import ServerKeeper.Shell.Word

namespace ServerKeeper.Shell

open Host

structure Variable where
  value : Option String
  isExported : Bool
  isReadOnly : Bool
  isFixed : Bool

inductive Saved
  | variable (name : String) (before : Option Variable)
  | options (before : List String)

structure Job where
  number : Nat
  members : List (Nat × Option Ending)
  isKnown : Bool

namespace Job

def isRunning (j : Job) : Bool := j.members.any fun (_, how) => how.isNone

def last (j : Job) : Nat := (j.members.getLast?.map (·.1)).getD 0

end Job

def statusOf : Ending → Nat
  | .exited n => n
  | .killed n => 128 + n

structure Session where
  name : String
  parameters : List String
  bindings : Table String Variable
  functions : Table String (Nat × Command)
  aliases : Table String String
  documents : Array Word
  options : List String
  traps : Table Nat String
  frames : List (List Saved)
  /-- The status of the last command, and the one that a trap or an exit goes back to. -/
  status : Nat
  savedStatus : Option Nat
  outputStatus : Nat
  /-- The first process of the shell, the one that started it, and the last one in the
  background. -/
  self : Nat
  parent : Nat
  background : Option Nat
  jobs : List Job
  isFirst : Bool
  calls : Nat
  loops : Nat
  builtin : Option String
  line : Nat
  /-- The argument that is next to be read for options, and how far the one before it was read if it
  holds several. -/
  optionIndex : Nat
  optionOffset : Option Nat
  place : String
  lookedUp : Table String String
  isOutputLost : Bool
  traceTo : Nat
  isTracing : Bool
  signals : List Nat

inductive Jump
  | error
  | exit
  | done
  | leaveLoop (levels : Nat)
  | nextRound (levels : Nat)
  /-- Back from a function, with a status of its own or with that of the last command. -/
  | back (isStatusGiven : Bool)

abbrev Action (α : Type) := ExceptT Jump (StateT Session Program) α

namespace Action

def ask (c : Call) : Action c.Reply := ExceptT.lift (StateT.lift (Program.ask c))

def attempt {α : Type} (a : Action α) : Action (Except Jump α) :=
  ExceptT.mk (Except.ok <$> ExceptT.run a)

def before {α : Type} (a : Action α) (after : Action Unit) : Action α := do
  let r ← attempt a
  after
  match r with
  | .ok a => return a
  | .error j => throw j

def process (s : Session) (a : Action Nat) : Process :=
  (ExceptT.run a).run s fun (r, s) =>
    match r with
    | .ok n => .exit n
    | .error _ => .exit s.status

def fork (a : Action Nat) : Action Nat := do
  let s ← get
  ExceptT.lift (StateT.lift (Program.fork (process s a)))

def setStatus (n : Nat) : Action Unit := modify fun s => { s with status := n }

def write (fd : Nat) (text : String) : Action Bool := do
  if text.isEmpty then return true
  else
    match ← ask (.write fd text) with
    | .ok () => return true
    | .error _ => return false

def complain (text : String) : Action Unit := do
  let s ← get
  let command := s.builtin.elim "" (· ++ ": ")
  let _ ← write 2 (s.name ++ ": " ++ toString s.line ++ ": " ++ command ++ text ++ "\n")

def fail {α : Type} (text : String) : Action α := do
  setStatus 2
  complain text
  throw .error

end Action

namespace Session

def isOn (s : Session) (option : String) : Bool := s.options.contains option

def setOption (s : Session) (option : String) (on : Bool) : Session :=
  let others := s.options.filter (· != option)
  { s with options := if on then option :: others else others }

def value? (s : Session) (name : String) : Option String :=
  (s.bindings.lookup name).bind (·.value)

def ownVariables : Table String Variable :=
  let own (name : String) (value : Option String) : String × Variable :=
    (name, ⟨value, false, false, true⟩)
  [own "HISTSIZE" none, own "TERM" none, own "OPTIND" (some "1"), own "PS4" (some "+ "),
   own "PS2" (some "> "), own "PS1" (some "# "),
   own "PATH" (some "/usr/local/sbin:/usr/local/bin:/usr/sbin:/usr/bin:/sbin:/bin"),
   own "MAILPATH" none, own "MAIL" none, own "IFS" (some " \t\n")]

def chain (size : Nat) (name : String) : Nat :=
  let first := (name.toList.head?.map Char.toNat).getD 0
  (name.foldl (fun n c => n + c.toNat) (first * 16)) % size

def environment (s : Session) : List (String × String) :=
  let exported := s.bindings.filterMap fun (name, v) =>
    if v.isExported then v.value.map (name, ·) else none
  exported.mergeSort fun (a, _) (b, _) => chain 39 a ≤ chain 39 b

def withValue (s : Session) (name value : String) (exported : Bool) : Session :=
  let exported := exported || s.isOn "allexport"
  let v : Variable :=
    match s.bindings.lookup name with
    | some v => { v with value := some value, isExported := v.isExported || exported }
    | none => ⟨some value, exported, false, false⟩
  { s with bindings := s.bindings.put name v }

def withoutValue (s : Session) (name : String) : Session :=
  match s.bindings.lookup name with
  | some v =>
    if v.isFixed then
      { s with bindings := s.bindings.put name { v with value := none, isExported := false } }
    else { s with bindings := s.bindings.drop name }
  | none => s

end Session

namespace Action

def heed (name : String) : Action Unit := do
  if name == "OPTIND" then
    modify fun s =>
      let index := ((s.value? "OPTIND").bind String.toNat?).getD 1
      { s with optionIndex := if index = 0 then 1 else index, optionOffset := none }
  else if name == "PATH" then modify fun s => { s with lookedUp := [] }

def checkWritable (name : String) : Action Unit := do
  match (← get).bindings.lookup name with
  | some v => if v.isReadOnly then fail (name ++ ": is read only")
  | none => pure ()

def assign (name value : String) (exported : Bool) : Action Unit := do
  checkWritable name
  modify fun s => s.withValue name value exported
  heed name

def assignChecked (name value : String) (exported : Bool) : Action Unit := do
  if isName name then assign name value exported else fail (name ++ ": bad variable name")

def unassign (name : String) : Action Unit := do
  checkWritable name
  modify fun s => s.withoutValue name

def keep (name : String) : Action Unit :=
  modify fun s =>
    match s.frames with
    | [] => s
    | frame :: frames =>
      { s with frames := (.variable name (s.bindings.lookup name) :: frame) :: frames }

def restoreFrame : Action Unit :=
  modify fun s =>
    match s.frames with
    | [] => s
    | frame :: frames =>
      frame.foldl
        (fun s saved =>
          match saved with
          | .options before => { s with options := before }
          | .variable name (some v) =>
            { s with
              bindings := s.bindings.put name v
              optionOffset := if name = "OPTIND" then none else s.optionOffset
              lookedUp := if name = "PATH" then [] else s.lookedUp }
          | .variable name none => { s with bindings := s.bindings.drop name })
        { s with frames }

def maxCalls : Nat := 1000

end Action

def optionTable : List (String × Option Char) :=
  [("errexit", some 'e'), ("noglob", some 'f'), ("ignoreeof", some 'I'), ("interactive", some 'i'),
   ("monitor", some 'm'), ("noexec", some 'n'), ("stdin", some 's'), ("xtrace", some 'x'),
   ("verbose", some 'v'), ("vi", some 'V'), ("emacs", some 'E'), ("noclobber", some 'C'),
   ("allexport", some 'a'), ("notify", some 'b'), ("nounset", some 'u'), ("privileged", some 'p'),
   ("nolog", none), ("debug", none)]

def optionOf? (letter : Char) : Option String :=
  (optionTable.find? (·.2 = some letter)).map (·.1)

namespace Session

def letters (s : Session) : String :=
  String.ofList (optionTable.reverse.filterMap fun (name, letter) =>
    if s.isOn name then letter else none)

def optionReport (s : Session) : String :=
  let line (name : String) : String :=
    name ++ String.ofList (List.replicate (16 - name.length) ' ') ++
      (if s.isOn name then "on" else "off") ++ "\n"
  "Current option settings\n" ++ String.join (optionTable.map fun (name, _) => line name)

def optionCommands (s : Session) : String :=
  String.join (optionTable.map fun (name, _) =>
    "set " ++ (if s.isOn name then "-o " else "+o ") ++ name ++ "\n")

end Session

end ServerKeeper.Shell
