import ServerKeeper.Shell.Evaluation

namespace ServerKeeper.Shell

open Host

structure Request where
  options : List (String × Bool)
  isText : Bool
  rest : List String

namespace Start

open Action

def session (name : String) (environment : List (String × String)) : Session :=
  let inherited := environment.foldl
    (fun (vs : Table String Variable) (name, value) =>
      if isName name then
        let isFixed := (vs.lookup name).any (·.isFixed)
        vs.put name ⟨some value, true, false, isFixed⟩
      else vs)
    Session.ownVariables
  let bindings := [("IFS", " \t\n"), ("OPTIND", "1")].foldl
    (fun (vs : Table String Variable) (name, value) =>
      vs.change name fun v => { v with value := some value })
    inherited
  { name
    parameters := []
    bindings
    functions := []
    aliases := []
    documents := #[]
    options := []
    traps := []
    frames := []
    status := 0
    savedStatus := none
    outputStatus := 0
    self := 0
    parent := 0
    background := none
    jobs := []
    isFirst := true
    calls := 0
    loops := 0
    builtin := none
    line := 0
    optionIndex := 1
    optionOffset := none
    place := ""
    lookedUp := []
    isOutputLost := false
    traceTo := 2
    isTracing := false
    signals := [] }

def isHere (path : String) : Action Bool := do
  match ← ask (.status path true), ← ask (.status "." true) with
  | .ok a, .ok b => return a.number = b.number
  | _, _ => return false

def orient : Action Unit := do
  let self ← ask .self
  let parent ← ask .parent
  modify fun s => (({ s with self, parent }).withValue "PPID" (toString parent) false)
  match (← get).value? "PWD" with
  | some path =>
    if path.startsWith "/" && (← isHere path) then Builtin.settle (some path) false
    else Builtin.settle none false
  | none => Builtin.settle none false

def letters (on : Bool) : List Char → List String → Request → Action (List String × Request)
  | [], arguments, r => return (arguments, r)
  | c :: cs, arguments, r => do
    match c with
    | 'c' => letters on cs arguments { r with isText := true }
    | 'l' => letters on cs arguments r
    | 'o' =>
      match arguments with
      | name :: rest =>
        if (optionTable.lookup name).isSome then
          letters on cs rest { r with options := (name, on) :: r.options }
        else fail ("Illegal option -o " ++ name)
      | [] =>
        Builtin.setNamed on none
        letters on cs [] r
    | c =>
      match optionOf? c with
      | some name => letters on cs arguments { r with options := (name, on) :: r.options }
      | none => fail ("Illegal option -" ++ c.toString)

def request : Nat → List String → Request → Action Request
  | 0, _, r => return r
  | fuel + 1, arguments, r => do
    match arguments with
    | [] => return { r with rest := [] }
    | first :: rest =>
      match first.toList with
      | ['-'] | ['-', '-'] => return { r with rest }
      | '-' :: cs =>
        let (arguments, r) ← letters true cs rest r
        request fuel arguments r
      | '+' :: cs =>
        let (arguments, r) ← letters false cs rest r
        request fuel arguments r
      | _ => return { r with rest := arguments }

def carryOut (evaluate : Evaluator) (arguments : List String) : Action Unit := do
  orient
  let r ← request (arguments.length + 1) arguments ⟨[], false, []⟩
  modify fun s => r.options.reverse.foldl (fun s (name, on) => s.setOption name on) s
  let give (name : Option String) (parameters : List String) : Action Unit :=
    modify fun s => { s with name := name.getD s.name, parameters }
  if r.isText then
    match r.rest with
    | [] => fail "-c requires an argument"
    | text :: rest =>
      give rest.head? (rest.drop 1)
      let isLast := !(← get).isOn "stdin"
      let _ ← runText evaluate { Manner.usual with isLast } text
  else
    let fromInput := r.rest.isEmpty || (← get).isOn "stdin"
    if fromInput then
      modify fun s => s.setOption "stdin" true
      give none r.rest
      let text ← readAll 0 maxRounds ""
      let _ ← runFile evaluate text
    else
      let file := r.rest.headD ""
      match ← ask (.openFile file .toRead 0) with
      | .error fault => fail ("cannot open " ++ file ++ ": " ++ openingText false fault)
      | .ok fd =>
        let text ← readAll fd maxRounds ""
        let _ ← ask (.close fd)
        give (some file) (r.rest.drop 1)
        let _ ← runFile evaluate text

end Start

def maxDepth : Nat := 1000000000

def process (arguments : List String) (environment : List (String × String)) : Process :=
  let evaluate := evaluator maxDepth
  let start := Start.session (arguments.headD "sh") environment
  Action.process start
    (Action.conclude evaluate (Start.carryOut evaluate (arguments.drop 1)))

end ServerKeeper.Shell
