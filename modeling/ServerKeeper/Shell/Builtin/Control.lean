import ServerKeeper.Shell.Builtin.Jobs
import ServerKeeper.Shell.Builtin.Names

namespace ServerKeeper.Shell.Builtin

open Action Host

def levels (arguments : List String) : Action Nat := do
  let loops := (← get).loops
  match arguments with
  | [] => return min 1 loops
  | a :: _ =>
    let n ← natural a
    if n = 0 then fail ("Illegal number: " ++ a) else return min n loops

def leaveLoops : Evaluator → Manner → List String → Action Nat := fun _ _ arguments => do
  let n ← levels arguments
  setStatus 0
  if n = 0 then return 0 else throw (.leaveLoop n)

def continueLoops : Evaluator → Manner → List String → Action Nat := fun _ _ arguments => do
  let n ← levels arguments
  setStatus 0
  if n = 0 then return 0 else throw (.nextRound n)

def goBack : Evaluator → Manner → List String → Action Nat := fun _ _ arguments => do
  match arguments with
  | [] => throw (.back false)
  | a :: _ =>
    setStatus (← natural a)
    throw (.back true)

def exit : Evaluator → Manner → List String → Action Nat := fun _ _ arguments => do
  match arguments with
  | [] => throw .exit
  | a :: _ =>
    let n ← natural a
    modify fun s => { s with savedStatus := some n }
    throw .exit

def eval : Evaluator → Manner → List String → Action Nat := fun evaluate m arguments => do
  let arguments ← withoutOptions arguments
  runText evaluate { m with isLast := false } (" ".intercalate arguments)

def scriptFile (name : String) : Action String := do
  if name.contains '/' then return name
  else
    match ← findAmong (filesAlong (searchPath (← get)) name) .notFound with
    | .ok file => return file
    | .error _ => fail (name ++ ": not found")

def scriptText (file : String) : Action String := do
  match ← ask (.openFile file .toRead 0) with
  | .error fault => fail ("cannot open " ++ file ++ ": " ++ openingText false fault)
  | .ok fd =>
    let text ← readAll fd maxRounds ""
    let _ ← ask (.close fd)
    return text

def source : Evaluator → Manner → List String → Action Nat := fun evaluate _ arguments => do
  match ← withoutOptions arguments with
  | [] => return 0
  | name :: _ =>
    let file ← scriptFile name
    let text ← scriptText file
    modify fun s => { s with builtin := some file }
    runFile evaluate text

def exec : Evaluator → Manner → List String → Action Nat := fun _ _ arguments => do
  match ← withoutOptions arguments with
  | [] => return 0
  | arguments => become (searchPath (← get)) arguments

def setReaction (number : Nat) (action : Option String) : Action Unit := do
  if number ≠ 0 then
    let s ← get
    let ignores := (← ask (.reaction number)) = .ignore
    if !ignores || s.traps.lookup number = some "" then
      ask (.react number
        (match action with
        | none => .usual
        | some "" => .ignore
        | some _ => .notice))

def trapLines (s : Session) : String :=
  let sorted := s.traps.mergeSort fun a b => a.1 ≤ b.1
  String.join (sorted.map fun (number, action) =>
    "trap -- " ++ quotedText action ++ " " ++ (Signal.name? number).getD "" ++ "\n")

def trapEach (action : Option String) : List String → Action Nat
  | [] => return 0
  | a :: rest => do
    match signalOf? 0 a with
    | none =>
      tell ("trap: " ++ a ++ ": bad trap\n")
      return 1
    | some number =>
      let action := action.filter (· != "-")
      setReaction number action
      modify fun s =>
        { s with traps := action.elim (s.traps.drop number) fun text => s.traps.put number text }
      trapEach action rest

def trap : Evaluator → Manner → List String → Action Nat := fun _ _ arguments => do
  match ← withoutOptions arguments with
  | [] =>
    print (trapLines (← get))
    return 0
  | [signal] => trapEach none [signal]
  | first :: rest =>
    if !first.isEmpty && first.all Char.isDigit && (signalOf? 0 first).isSome then
      trapEach none (first :: rest)
    else trapEach (some first) rest

def times : Evaluator → Manner → List String → Action Nat := fun _ _ _ => do
  print "0m0.000000s 0m0.000000s\n0m0.000000s 0m0.000000s\n"
  return 0

def ulimit : Evaluator → Manner → List String → Action Nat := fun _ _ arguments => do
  let (found, arguments) ← options "HSatfdsmcnpvlwreq" arguments
  if arguments.isEmpty then
    match (found.filter fun (c, _) => c ≠ 'H' && c ≠ 'S').getLast?.map (·.1) with
    | some 's' => print "8192\n"
    | some 'n' => print "1024\n"
    | some 'c' => print "0\n"
    | some 'l' => print "64\n"
    | some 'p' => print "1048576\n"
    | _ => print "unlimited\n"
  return 0

def succeed : Evaluator → Manner → List String → Action Nat := fun _ _ _ => return 0

def fails : Evaluator → Manner → List String → Action Nat := fun _ _ _ => return 1

def usualPath : String := "/usr/local/sbin:/usr/local/bin:/usr/sbin:/usr/bin:/sbin:/bin"

/-- Says what a name stands for. Where a command is to be carried out, that is done before. -/
def command : Evaluator → Manner → List String → Action Nat := fun _ _ arguments => do
  let (found, arguments) ← options "pvV" arguments
  let path := if found.any (·.1 = 'p') then some usualPath else none
  match arguments with
  | name :: _ =>
    if found.any (·.1 = 'V') then describe true path [name] "" 0
    else if found.any (·.1 = 'v') then describe false path [name] "" 0
    else return 0
  | [] => return 0

def controlBuiltins : List Builtin :=
  [⟨"break", true, false, leaveLoops⟩, ⟨"continue", true, false, continueLoops⟩,
   ⟨"return", true, false, goBack⟩, ⟨"exit", true, false, exit⟩, ⟨"eval", true, false, eval⟩,
   ⟨".", true, false, source⟩, ⟨"exec", true, false, exec⟩, ⟨"trap", true, false, trap⟩,
   ⟨"times", true, false, times⟩, ⟨"ulimit", false, false, ulimit⟩, ⟨":", true, false, succeed⟩,
   ⟨"true", false, false, succeed⟩, ⟨"false", false, false, fails⟩,
   ⟨"command", false, false, command⟩]

end ServerKeeper.Shell.Builtin
