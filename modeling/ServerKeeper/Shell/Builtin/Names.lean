import ServerKeeper.Shell.Builtin.Basic

namespace ServerKeeper.Shell

open Host

def usualNames : List String :=
  ["[", "alias", "bg", "cd", "chdir", "command", "echo", "false", "fg", "getopts", "hash", "jobs",
    "kill", "printf", "pwd", "read", "test", "true", "type", "ulimit", "umask", "unalias", "wait"]

def builtinKind? (name : String) : Option Bool :=
  if specialNames.contains name || name == "local" then some true
  else if usualNames.contains name then some false
  else none

namespace Action

def filesAlong (path name : String) : List String :=
  (path.splitOn ":").map fun place => if place.isEmpty then name else place ++ "/" ++ name

def searchPath (s : Session) : String := (s.value? "PATH").getD ""

def startText : FileFault → String
  | .notFound | .notADirectory => "not found"
  | fault => fault.text

def findAmong : List String → FileFault → Action (Except FileFault String)
  | [], fault => return .error fault
  | path :: rest, fault => do
    match ← ask (.status path true) with
    | .error .notFound | .error .notADirectory => findAmong rest fault
    | .error fault => findAmong rest fault
    | .ok status =>
      if status.content.isFile then return .ok path else findAmong rest .permissionDenied

def findProgram (path name : String) : Action (Except FileFault String) := do
  if name.contains '/' then return .ok name
  else
    let found ← findAmong (filesAlong path name) .notFound
    match found with
    | .ok file =>
      modify fun s =>
        if path == searchPath s then { s with lookedUp := s.lookedUp.put name file } else s
    | .error _ => pure ()
    return found

def startFile (file : String) (arguments : List String) : Action FileFault := do
  let environment := (← get).environment
  let fault ← ask (.execute file arguments environment)
  if fault = .notExecutableFormat then
    ask (.execute "/bin/sh" ("/bin/sh" :: file :: arguments.drop 1) environment)
  else return fault

def startAmong (arguments : List String) : List String → FileFault → Action FileFault
  | [], fault => return fault
  | file :: rest, fault => do
    match ← startFile file arguments with
    | .notFound | .notADirectory => startAmong arguments rest fault
    | fault => startAmong arguments rest fault

def startStatus : FileFault → Nat
  | .notFound | .notADirectory | .tooManyLinks | .nameTooLong => 127
  | _ => 126

def become {α : Type} (path : String) (arguments : List String) : Action α := do
  let name := arguments.head?.getD ""
  let fault ←
    if name.contains '/' then startFile name arguments
    else startAmong arguments (filesAlong path name) .notFound
  complain (name ++ ": " ++ startText fault)
  setStatus (startStatus fault)
  throw .done

end Action

end ServerKeeper.Shell

namespace ServerKeeper.Shell.Builtin

open Action Host

def aliasLine (name value : String) : String := name ++ "=" ++ quotedText value ++ "\n"

def byChain {α : Type} (size : Nat) (t : Table String α) : List (String × α) :=
  t.mergeSort fun (a, _) (b, _) => Session.chain size a ≤ Session.chain size b

def makeAlias : Evaluator → Manner → List String → Action Nat := fun _ _ arguments => do
  if arguments.isEmpty then
    let lines := (byChain 39 (← get).aliases).map fun (name, value) => aliasLine name value
    print (String.join lines)
    return 0
  else
    let mut status := 0
    for a in arguments do
      let s ← get
      let name := (a.take 1).toString ++ String.ofList ((a.toList.drop 1).takeWhile (· ≠ '='))
      if name.length < a.length then
        set { s with aliases := s.aliases.put name (a.drop (name.length + 1)).toString }
      else
        match s.aliases.lookup a with
        | some value => print (aliasLine a value)
        | none =>
          tell ("alias: " ++ a ++ " not found\n")
          status := 1
    return status

def dropAlias : Evaluator → Manner → List String → Action Nat := fun _ _ arguments => do
  let (found, arguments) ← options "a" arguments
  if !found.isEmpty then
    modify fun s => { s with aliases := [] }
    return 0
  else
    let mut status := 0
    for a in arguments do
      let s ← get
      if (s.aliases.lookup a).isSome then set { s with aliases := s.aliases.drop a }
      else
        tell ("unalias: " ++ a ++ " not found\n")
        status := 1
    return status

/-- What there is to say about the name of a command; nothing about one that means nothing. -/
def description (verbose : Bool) (path : Option String) (name : String) :
    Action (Option String) := do
  let s ← get
  let said (what : String) : Option String := some (if verbose then name ++ what else name)
  let program : Action (Option String) := do
    let wasLookedUp := (s.lookedUp.lookup name).isSome && path.isNone
    if name.contains '/' then
      match ← ask (.status name true) with
      | .ok _ => return some (if verbose then name ++ " is " ++ name else name)
      | .error _ => return none
    else
      match ← findAmong (filesAlong (path.getD (searchPath s)) name) .notFound with
      | .ok file =>
        let how := if wasLookedUp then " is a tracked alias for " else " is "
        return some (if verbose then name ++ how ++ file else file)
      | .error _ => return none
  if reservedWords.contains name then return said " is a shell keyword"
  else
    match s.aliases.lookup name, s.functions.lookup name, builtinKind? name with
    | some value, _, _ =>
      return some (if verbose then name ++ " is an alias for " ++ value
        else "alias " ++ name ++ "=" ++ quotedText value)
    | none, some _, _ => return said " is a shell function"
    | none, none, some isSpecial =>
      return said (if isSpecial then " is a special shell builtin" else " is a shell builtin")
    | none, none, none => program

def describe (verbose : Bool) (path : Option String) : List String → String → Nat → Action Nat
  | [], text, status => do
    print text
    return status
  | name :: names, text, status => do
    match ← description verbose path name with
    | some line => describe verbose path names (text ++ line ++ "\n") status
    | none =>
      describe verbose path names (if verbose then text ++ name ++ ": not found\n" else text) 127

def type : Evaluator → Manner → List String → Action Nat := fun _ _ arguments => do
  describe true none (← withoutOptions arguments) "" 0

def hash : Evaluator → Manner → List String → Action Nat := fun _ _ arguments => do
  let (found, arguments) ← options "r" arguments
  if !found.isEmpty then
    modify fun s => { s with lookedUp := [] }
    return 0
  else if arguments.isEmpty then
    print (String.join ((byChain 31 (← get).lookedUp).map fun (_, file) => file ++ "\n"))
    return 0
  else
    let mut status := 0
    for name in arguments do
      let s ← get
      if (s.functions.lookup name).isNone && (builtinKind? name).isNone then
        match ← findProgram (searchPath s) name with
        | .ok _ => pure ()
        | .error fault =>
          complain (name ++ ": " ++ startText fault)
          status := 1
    return status

def nameBuiltins : List Builtin :=
  [⟨"alias", false, false, makeAlias⟩, ⟨"unalias", false, false, dropAlias⟩,
   ⟨"type", false, false, type⟩, ⟨"hash", false, false, hash⟩]

end ServerKeeper.Shell.Builtin
