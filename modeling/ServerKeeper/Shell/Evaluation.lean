import ServerKeeper.Shell.Builtin.Control
import ServerKeeper.Shell.Builtin.Place
import ServerKeeper.Shell.Builtin.Variables

namespace ServerKeeper.Shell

open Host

def builtins : List Builtin :=
  Builtin.placeBuiltins ++ Builtin.controlBuiltins ++ Builtin.variableBuiltins ++
    Builtin.jobBuiltins ++ Builtin.nameBuiltins

def builtin? (name : String) : Option Builtin := builtins.find? (·.name == name)

inductive Meaning
  | function (body : Command)
  | builtin (b : Builtin)
  | program

structure Invocation where
  words : List String
  arguments : List String
  meaning : Meaning
  isSpecial : Bool
  path : Option String

namespace Action

def meaningOf (s : Session) (skipsFunctions : Bool) (name : String) : Meaning :=
  match if skipsFunctions then none else s.functions.lookup name, builtin? name with
  | some (_, body), _ => .function body
  | none, some b => .builtin b
  | none, none => .program

def inLoop (a : Action Unit) : Action Bool := do
  match ← attempt a with
  | .ok () => return true
  | .error (.leaveLoop n) => if n ≤ 1 then return false else throw (.leaveLoop (n - 1))
  | .error (.nextRound n) => if n ≤ 1 then return true else throw (.nextRound (n - 1))
  | .error j => throw j

def asLoop (a : Action Unit) : Action Unit := do
  modify fun s => { s with loops := s.loops + 1 }
  before a (modify fun s => { s with loops := s.loops - 1 })

def hasTraps (s : Session) : Bool := s.traps.any (·.2 != "")

section

variable (evaluate : Evaluator)

def fill : List Word → Action (List String × List Word)
  | [] => return ([], [])
  | w :: ws => do
    let here ← expandWord evaluate w
    if here.isEmpty then fill ws else return (here, ws)

def expandAssignments : List Word → Action (List String)
  | [] => return []
  | w :: ws => do
    let here ← match assignment? w with
      | some (name, value) => do pure [name ++ "=" ++ (← expandText evaluate .ofAssignment value)]
      | none => expandWord evaluate w
    return here ++ (← expandAssignments ws)

/-- The words behind the name `command` and its options: those before them, those from the next name
on, and those that are left. There are none if something else is asked for. -/
def behindCommand : Nat → List String → List String → List Word → Option String →
    Action (Option (List String × List String × List Word × Option String))
  | 0, _, _, _, _ => return none
  | fuel + 1, passed, words, left, path => do
    match words with
    | [] =>
      let (here, left) ← fill evaluate left
      if here.isEmpty then return none else behindCommand fuel passed here left path
    | first :: rest =>
      match first.toList with
      | ['-', '-'] =>
        let (here, left) ← if rest.isEmpty then fill evaluate left else pure (rest, left)
        return if here.isEmpty then none else some (passed ++ [first], here, left, path)
      | '-' :: c :: cs =>
        if (c :: cs).all (· = 'p') then
          behindCommand fuel (passed ++ [first]) rest left (some Builtin.usualPath)
        else return none
      | _ => return some (passed, words, left, path)

def invocation : Nat → List String → List String → List Word → Option Bool → Bool →
    Option String → Action Invocation
  | 0, _, _, _, _, _, _ => throw .done
  | fuel + 1, passed, words, left, special, skipsFunctions, path => do
    let name := words.head?.getD ""
    let finish (m : Meaning) (isSpecial takesAssignments : Bool) : Action Invocation := do
      let more ←
        if takesAssignments then expandAssignments evaluate left else expandWords evaluate left
      let arguments := words ++ more
      return ⟨passed ++ arguments, arguments, m, isSpecial, path⟩
    match meaningOf (← get) skipsFunctions name with
    | .builtin b =>
      let special := special.getD b.isSpecial
      if b.name == "command" then
        match ← behindCommand evaluate maxRounds [name] (words.drop 1) left path with
        | some (before, words, left, path) =>
          invocation fuel (passed ++ before) words left (some special) true path
        | none => finish (.builtin b) special false
      else finish (.builtin b) special b.takesAssignments
    | m => finish m false false

def trace (words : List String) : Action Unit := do
  let s ← get
  if s.isOn "xtrace" && !s.isTracing then
    set { s with isTracing := true }
    let sign := (s.value? "PS4").getD "+ "
    let sign ←
      if sign.any fun c => c == '$' || c == '\x60' || c == '\\' then do
        let endless : Announced := ⟨0, "\x00", false, false⟩
        let reading := document ((nestedTo maxNesting).commands maxReading) endless
        match reading (Reader.ofText sign s.aliases s.documents) with
        | .ok w reader =>
          modify fun s => { s with documents := reader.documents }
          joinedText <$> pieces evaluate maxReading .ofText false w
        | .error _ _ => pure sign
      else pure sign
    modify fun s => { s with isTracing := false }
    let _ ← write s.traceTo (sign ++ " ".intercalate words ++ "\n")

/-- Starts a program and waits for it, or lets it take the place of a shell that is at its end. -/
def runProgram (m : Manner) (path : Option String) (arguments : List String) : Action Unit := do
  let s ← get
  let places := path.getD (searchPath s)
  let name := arguments.head?.getD ""
  match ← findProgram places name with
  | .error fault =>
    setStatus 127
    complain (name ++ ": " ++ startText fault)
  | .ok _ =>
    if m.isLast && !hasTraps s then become places arguments
    else
      let _ ← claimNumber
      let child ← fork (conclude evaluate (do
        becomeChild .foreground true
        modify fun s => { s with traps := [] }
        become places arguments))
      setStatus (← await [child])

def callFunction (m : Manner) (arguments : List String) (body : Command) : Action Unit := do
  let s ← get
  if maxCalls ≤ s.calls then
    fail ("Maximum function recursion depth (" ++ toString maxCalls ++ ") reached")
  set { s with
    calls := s.calls + 1, loops := 0, parameters := arguments
    optionIndex := 1, optionOffset := none }
  let r ← attempt (evaluate { m with isLast := false } body)
  modify fun t => { t with
    calls := s.calls, loops := s.loops, parameters := s.parameters
    optionIndex := s.optionIndex, optionOffset := s.optionOffset }
  match r with
  | .ok () | .error (.back _) => pure ()
  | .error j => throw j

def callBuiltin (m : Manner) (b : Builtin) (isSpecial : Bool) (arguments : List String) :
    Action Unit := do
  let outer := (← get).builtin
  modify fun s => { s with builtin := some b.name, isOutputLost := false }
  let r ← attempt (b.run evaluate m arguments)
  match r with
  | .ok status =>
    if (← get).isOutputLost then
      complain (b.name ++ ": I/O error")
      setStatus (status ||| 1)
    else setStatus status
  | .error _ => pure ()
  modify fun s => { s with builtin := outer, isOutputLost := false }
  match r with
  | .ok _ => pure ()
  | .error .error => if isSpecial then throw .error
  | .error j => throw j

def assignAll (isLent exported : Bool) : List (String × Word) → List String → Action (List String)
  | [], shown => return shown.reverse
  | (name, w) :: rest, shown => do
    let value ← expandText evaluate .ofAssignment w
    if isLent then keep name
    assign name value (isLent || exported)
    assignAll isLent exported rest ((name ++ "=" ++ value) :: shown)

def simple (m : Manner) (line : Nat) (assignments : List (String × Word)) (ws : List Word)
    (rs : List Redirect) : Action Unit := do
  modify fun s => { s with line, outputStatus := 0 }
  let (first, left) ← fill evaluate ws
  let call ←
    if first.isEmpty then pure none
    else some <$> invocation evaluate maxRounds [] first left none false none
  let isExec := call.any fun c =>
    match c.meaning with
    | .builtin b => b.name == "exec"
    | _ => false
  let isLent := call.any fun c => !c.isSpecial
  let isSpecial := call.any (·.isSpecial)
  let cs ← connections evaluate rs
  let (kept, isWell) ← connectAll [] cs
  let outerTrace := (← get).traceTo
  let restore : Action Unit := do
    modify fun s => { s with traceTo := outerTrace }
    if isExec then letGo kept else giveBack kept
  if !isWell then
    setStatus 2
    restore
    if isSpecial then throw .error
  else
    modify fun s => { s with traceTo := (kept.lookup 2).join.getD 2 }
    before (do
      let run : Action Unit := do
        let exported := isExec && call.any fun c => c.arguments.length > 1
        let shown ← assignAll evaluate isLent exported assignments []
        trace evaluate (shown ++ call.elim [] (·.words))
        match call with
        | none => setStatus (← get).outputStatus
        | some c =>
          match c.meaning with
          | .function body => callFunction evaluate m (c.arguments.drop 1) body
          | .builtin b => callBuiltin evaluate m b c.isSpecial (c.arguments.drop 1)
          | .program => runProgram evaluate m c.path c.arguments
      let needsFrame := isLent && (!assignments.isEmpty || call.any fun c =>
        match c.meaning with
        | .function _ => true
        | _ => false)
      if needsFrame then
        modify fun s => { s with frames := [] :: s.frames }
        before run restoreFrame
      else run) restore

def checkStatus (m : Manner) : Action Unit := do
  let s ← get
  if s.status ≠ 0 && !m.isTested && s.isOn "errexit" then throw .done

def inSubshell (m : Manner) (isBackground : Bool) (line : Nat) (body : Command)
    (rs : List Redirect) : Action Unit := do
  modify fun s => { s with line }
  let cs ← connections evaluate rs
  let whole (tested : Bool) : Action Unit := do
    for c in cs do connect c
    evaluate ⟨tested, true⟩ body
  if !isBackground && m.isLast && !hasTraps (← get) then
    whole m.isTested
    throw .done
  else
    let number ← claimNumber
    let child ← fork (do
      becomeChild (if isBackground then .background else .foreground) true
      conclude evaluate (whole (m.isTested && !isBackground)))
    if isBackground then
      leaveBehind number [child]
      setStatus 0
    else setStatus (← await [child])

def plainName? (s : Session) : Command → Option String
  | .simple _ _ (w :: _) _ => do
    let name ← Part.bareText? w
    if isName name && (s.functions.lookup name).isNone && (builtinKind? name).isNone then some name
    else none
  | _ => none

def startPiped (m : Manner) (isBackground : Bool) :
    List Command → Option Nat → List Nat → Action (List Nat)
  | [], _, pids => return pids.reverse
  | c :: rest, input, pids => do
    match plainName? (← get) c with
    | some name =>
      let _ ← findProgram (searchPath (← get)) name
    | none => pure ()
    let next ← if rest.isEmpty then pure none else some <$> ask .pipe
    let child ← fork (do
      becomeChild (if isBackground then .background else .foreground) pids.isEmpty
      match next with
      | some (reader, _) =>
        let _ ← ask (.close reader)
      | none => pure ()
      match input with
      | some fd => moveTo fd 0
      | none => pure ()
      match next with
      | some (_, writer) => moveTo writer 1
      | none => pure ()
      conclude evaluate (evaluate { m with isLast := true } c))
    match input with
    | some fd =>
      let _ ← ask (.close fd)
    | none => pure ()
    match next with
    | some (_, writer) =>
      let _ ← ask (.close writer)
    | none => pure ()
    startPiped m isBackground rest (next.map (·.1)) (child :: pids)

def pipeline (m : Manner) (isBackground : Bool) (cs : List Command) : Action Unit := do
  let number ← claimNumber
  let pids ← startPiped evaluate m isBackground cs none []
  if isBackground then
    leaveBehind number pids
    setStatus 0
  else setStatus (← await pids)

def loopWhile (m : Manner) (untilTrue : Bool) (test body : Command) : Nat → Nat → Action Unit
  | 0, status => setStatus status
  | fuel + 1, status => do
    let tested ← attempt (evaluate .tested test)
    match tested with
    | .error (.leaveLoop n) =>
      if n ≤ 1 then setStatus status else throw (.leaveLoop (n - 1))
    | .error (.nextRound n) =>
      if n ≤ 1 then loopWhile m untilTrue test body fuel status else throw (.nextRound (n - 1))
    | .error j => throw j
    | .ok () =>
      if ((← get).status == 0) == untilTrue then setStatus status
      else
        let goesOn ← inLoop (evaluate { m with isLast := false } body)
        let status := (← get).status
        if goesOn then loopWhile m untilTrue test body fuel status else setStatus status

def loopOver (m : Manner) (name : String) (body : Command) : List String → Action Unit
  | [] => pure ()
  | value :: rest => do
    assign name value false
    if ← inLoop (evaluate { m with isLast := false } body) then loopOver m name body rest

def fitsAny (text : String) : List Word → Action Bool
  | [] => return false
  | w :: ws => do
    let p ← expandPattern evaluate w
    if p.fits text.toList then return true else fitsAny text ws

def choose (m : Manner) (text : String) : List (List Word × Command) → Action Unit
  | [] => setStatus 0
  | (patterns, body) :: arms => do
    if ← fitsAny evaluate text patterns then
      match body with
      | .nothing => setStatus 0
      | body => evaluate m body
    else choose m text arms

def perform (m : Manner) (c : Command) : Action Unit := do
  let inner : Manner := { m with isLast := false }
  match c with
  | .nothing => pure ()
  | .simple line assignments ws rs =>
    simple evaluate m line assignments ws rs
    checkStatus m
  | .negated c =>
    evaluate .tested c
    setStatus (if (← get).status = 0 then 1 else 0)
  | .pipeline cs isBackground =>
    pipeline evaluate m isBackground cs
    checkStatus m
  | .both first second =>
    evaluate .tested first
    if (← get).status = 0 then evaluate m second
  | .either first second =>
    evaluate .tested first
    if (← get).status ≠ 0 then evaluate m second
  | .sequence first second =>
    evaluate inner first
    evaluate m second
  | .conditional test yes no =>
    evaluate .tested test
    if (← get).status = 0 then evaluate m yes
    else
      match no with
      | .nothing => setStatus 0
      | no => evaluate m no
  | .loop untilTrue test body =>
    asLoop (loopWhile evaluate m untilTrue test body maxRounds 0)
  | .each line name ws body =>
    modify fun s => { s with line }
    let values ← expandWords evaluate ws
    setStatus 0
    asLoop (loopOver evaluate m name body values)
  | .choose line subject arms =>
    modify fun s => { s with line }
    let text ← expandText evaluate .ofText subject
    choose evaluate m text arms
  | .redirected line body rs =>
    modify fun s => { s with line }
    redirected evaluate rs (evaluate inner body)
  | .subshell line body rs =>
    inSubshell evaluate m false line body rs
    checkStatus m
  | .background line body rs =>
    inSubshell evaluate m true line body rs
    checkStatus m
  | .define line name body =>
    modify fun s => { s with functions := s.functions.put name (line, body) }
    setStatus 0

end

end Action

def evaluator : Nat → Evaluator
  | 0 => fun _ _ => throw .done
  | depth + 1 => fun m c => do
    if (← get).isOn "noexec" then pure ()
    else
      match c with
      | .nothing => pure ()
      | c =>
        Action.heedSignals (evaluator depth)
        Action.perform (evaluator depth) m c

end ServerKeeper.Shell
