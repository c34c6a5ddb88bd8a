import ServerKeeper.Host.Signal
import ServerKeeper.Tool.Exact
import ServerKeeper.Tool.Options

namespace ServerKeeper.Tool

open Host

namespace Job

def execute (file : String) (arguments : List String) (environment : List (String × String)) :
    Job FileFault := do
  flush
  match ← ask (.execute file arguments environment) with
  | .notExecutableFormat =>
    ask (.execute "/bin/sh" ("/bin/sh" :: file :: arguments.drop 1) environment)
  | fault => return fault

def executeAmong (arguments : List String) (environment : List (String × String)) :
    List String → FileFault → Job FileFault
  | [], fault => return fault
  | file :: rest, fault => do
    match ← execute file arguments environment with
    | .permissionDenied => executeAmong arguments environment rest .permissionDenied
    | .notFound | .notADirectory | .noDevice => executeAmong arguments environment rest fault
    | other => return other

/-- Starts a program that is looked for on the search path of its environment. Gives why that
fails. -/
def become (arguments : List String) (environment : List (String × String)) : Job FileFault := do
  let name := arguments.headD ""
  if name.isEmpty then return .notFound
  else if name.contains '/' then execute name arguments environment
  else
    let path := (environment.lookup "PATH").getD "/bin:/usr/bin"
    let files := (path.splitOn ":").map fun place =>
      if place.isEmpty then name else place ++ "/" ++ name
    executeAmong arguments environment files .notFound

def start (arguments : List String) (environment : List (String × String))
    (missing : FileFault → String) (status : FileFault → Nat) : Job Nat := fork do
  let fault ← become arguments environment
  tell (missing fault)
  throw (status fault)

def awaitEnd (pid : Nat) : Nat → Job Ending
  | 0 => return .exited 0
  | fuel + 1 => do
    match ← ask (.wait (some pid) true false) with
    | .ended p how => if p = pid then return how else awaitEnd pid fuel
    | .nobody => return .exited 127
    | .running | .interrupted => awaitEnd pid fuel

end Job

namespace Starting

open Job

def isMissing : FileFault → Bool
  | .notFound => true
  | _ => false

def assign (vs : List (String × String)) (name value : String) : List (String × String) :=
  if vs.any (·.1 == name) then vs.map fun p => if p.1 == name then (name, value) else p
  else vs ++ [(name, value)]

/-- How a text for `env -S` is taken apart: the words so far, the word that is read, and whether one
has begun. -/
structure Split where
  words : List String
  word : List Char
  hasBegun : Bool

namespace Split

def push (s : Split) (c : Char) : Split := { s with word := c :: s.word, hasBegun := true }

def pushAll (s : Split) (t : String) : Split :=
  { s with word := t.toList.reverse ++ s.word, hasBegun := true }

def finish (s : Split) : Split :=
  if s.hasBegun then ⟨String.ofList s.word.reverse :: s.words, [], false⟩ else s

end Split

def isNameStart (c : Char) : Bool := c.isAlpha || c = '_'

def splitText (environment : List (String × String)) : Nat → Option Char → List Char → Split →
    Job Split
  | 0, _, _, s => return s
  | fuel + 1, quote, cs, s => do
    let go := splitText environment fuel
    match cs with
    | [] =>
      if quote.isSome then failWith 125 "no terminating quote in -S string"
      else return s.finish
    | c :: rest =>
      match c, quote with
      | '\'', some '"' | '"', some '\'' => go quote rest (s.push c)
      | '\'', none | '"', none => go (some c) rest { s with hasBegun := true }
      | '\'', some '\'' | '"', some '"' => go none rest s
      | '\\', _ =>
        if quote = some '\'' && rest.head? ≠ some '\\' && rest.head? ≠ some '\'' then
          go quote rest (s.push c)
        else
          match rest with
          | [] => failWith 125 "invalid backslash at end of string in -S"
          | e :: rest =>
            match e with
            | '"' | '#' | '$' | '\'' | '\\' => go quote rest (s.push e)
            | '_' =>
              if quote.isSome then go quote rest (s.push ' ') else go quote rest s.finish
            | 'c' =>
              if quote = some '"' then
                failWith 125 "'\\c' must not appear in double-quoted -S string"
              else return s.finish
            | 'f' => go quote rest (s.push '\x0c')
            | 'n' => go quote rest (s.push '\n')
            | 'r' => go quote rest (s.push '\r')
            | 't' => go quote rest (s.push '\t')
            | 'v' => go quote rest (s.push '\x0b')
            | e => failWith 125 ("invalid sequence '\\" ++ e.toString ++ "' in -S")
      | '$', some '\'' => go quote rest (s.push c)
      | '$', _ =>
        let name := (rest.drop 1).takeWhile fun c => c.isAlphanum || c = '_'
        let isName := rest.head? = some '\x7b' && name.head?.any isNameStart &&
          (rest.drop (name.length + 1)).head? = some '\x7d'
        if isName then
          let value := environment.lookup (String.ofList name)
          let s := value.elim s s.pushAll
          go quote (rest.drop (name.length + 2)) s
        else failWith 125 ("only $\x7bVARNAME\x7d expansion is supported, error at: " ++
          String.ofList cs)
      | c, none =>
        if c = ' ' || '\t' ≤ c && c ≤ '\x0d' then go none rest s.finish
        else if c = '#' && !s.hasBegun then return s.finish
        else go none rest (s.push c)
      | c, quote => go quote rest (s.push c)

def splitOption (environment : List (String × String)) : Nat → List String → Job (List String)
  | 0, arguments => return arguments
  | fuel + 1, arguments => do
    let expand (before text : String) (rest : List String) : Job (List String) := do
      let s ← splitText environment (text.length + 2) none text.toList ⟨[], [], false⟩
      let words := s.words.reverse
      let more ← splitOption environment fuel (words ++ rest)
      return if before.isEmpty then more else before :: more
    match arguments with
    | a :: rest =>
      if a == "--" || !a.startsWith "-" || a == "-" then return arguments
      else if a.startsWith "--split-string=" then expand "" (a.drop 15).toString rest
      else if a.startsWith "--" then return a :: (← splitOption environment fuel rest)
      else
        let letters := a.toList.drop 1
        let plain := letters.takeWhile fun c => c = 'i' || c = '0' || c = 'v'
        let before := if plain.isEmpty then "" else "-" ++ String.ofList plain
        match letters.drop plain.length, rest with
        | ['S'], text :: rest => expand before text rest
        | 'S' :: text, rest =>
          if text.isEmpty then return arguments else expand before (String.ofList text) rest
        | ['u'], name :: rest | ['C'], name :: rest =>
          return a :: name :: (← splitOption environment fuel rest)
        | _, _ => return a :: (← splitOption environment fuel rest)
    | [] => return []

def checkBlanks (arguments : List String) : Job Unit := do
  match arguments with
  | a :: _ =>
    let letters := (a.toList.drop 1).dropWhile fun c => c = 'i' || c = '0' || c = 'v'
    match letters with
    | c :: _ =>
      if a.startsWith "-" && !a.startsWith "--" && (c = ' ' || '\t' ≤ c && c ≤ '\x0d') then
        complain ("invalid option -- '" ++ c.toString ++ "'")
        complain "use -[v]S to pass options in shebang lines"
        hint 125
    | [] => pure ()
  | [] => pure ()

def signal? (text : String) : Option Nat :=
  if !text.isEmpty && text.all Char.isDigit then text.toNat?.filter (· ≤ Signal.greatest)
  else
    let upper := text.toUpper
    Signal.number? (if upper.startsWith "SIG" then (upper.drop 3).toString else upper)

def blanks : List Char := [' ', '\t', '\n', '\x0b', '\x0c', '\r']

def env : Utility where
  name := "env"
  operands := "[OPTION]... [-] [NAME=VALUE]... [COMMAND [ARG]...]"
  work arguments := do
    let inherited := (← get).environment
    let arguments ← splitOption inherited (arguments.length + 1000) arguments
    checkBlanks arguments
    let t := OptionTable.ofTexts "C:iS:u:v0"
      ["ignore-environment i", "null 0", "unset= u", "chdir= C", "default-signal? d",
       "ignore-signal? g", "block-signal? b", "list-signal-handling l", "debug v",
       "split-string= S"] false 125
    let (found, words) ← t.parse arguments
    let (isEmpty, words) :=
      match words with
      | "-" :: rest => (true, rest)
      | words => (Chosen.has found "i", words)
    let start := if isEmpty then [] else inherited
    let unset := found.filterMap fun (key, value) => if key == "u" then value else none
    for name in unset do
      if name.isEmpty || name.contains '=' then
        failWith 125 ("cannot unset " ++ ShownPath.literal name ++ ": Invalid argument")
    let start := start.filter fun p => !unset.contains p.1
    let assignments := words.takeWhile (·.contains '=')
    let environment := assignments.foldl
      (fun vs a =>
        let name := String.ofList (a.toList.takeWhile (· ≠ '='))
        assign vs name (a.drop (name.length + 1)).toString)
      start
    let command := words.drop assignments.length
    let debug (text : String) : Job Unit := do
      if Chosen.has found "v" then tell (text ++ "\n")
    if isEmpty then debug "cleaning environ"
    else for name in unset do debug ("unset:    " ++ name)
    for a in assignments do debug ("setenv:   " ++ a)
    for (key, value) in found do
      if ["d", "g", "b"].contains key then
        for name in ((value.getD "").splitOn ",").filter (!·.isEmpty) do
          match signal? name with
          | none => misuseWith 125 (ShownPath.literal name ++ ": invalid signal")
          | some n =>
            if key == "d" then ask (.react n .usual)
            else if key == "g" then ask (.react n .ignore)
    if Chosen.has found "0" && !command.isEmpty then
      misuseWith 125 "cannot specify --null (-0) with command"
    if Chosen.has found "C" && command.isEmpty then
      misuseWith 125 "must specify command with --chdir (-C)"
    match command with
    | [] =>
      let mark := if Chosen.has found "0" then "\x00" else "\n"
      for (name, value) in environment do print (name ++ "=" ++ value ++ mark)
    | program :: _ =>
      if let some place := Chosen.value? found "C" then
        match ← ask (.changeDirectory place) with
        | .ok () => pure ()
        | .error fault =>
          failWith 125 ("cannot change directory to " ++ ShownPath.quoted place ++ ": " ++
            fault.text)
      debug ("executing: " ++ program)
      for (a, i) in command.zipIdx do
        debug ("   arg[" ++ toString i ++ "]= " ++ ShownPath.literal a)
      let fault ← become command environment
      let status := if isMissing fault then 127 else 126
      complainWith status (ShownPath.literal program ++ ": " ++ fault.text)
      if isMissing fault && program.any blanks.contains then
        tell ((← get).name ++ ": use -[v]S to pass options in shebang lines\n")
      throw status

def printenv : Utility where
  name := "printenv"
  operands := "[OPTION]... [VARIABLE]..."
  work arguments := do
    let t := OptionTable.ofTexts "0" ["null 0"] false 2
    let (found, names) ← t.parse arguments
    let mark := if Chosen.has found "0" then "\x00" else "\n"
    let environment := (← get).environment
    if names.isEmpty then
      for (name, value) in environment do print (name ++ "=" ++ value ++ mark)
    for name in names do
      match environment.lookup name with
      | some value => print (value ++ mark)
      | none => setStatus 1

def handOver {α : Type} (command : List String) : Job α := do
  let fault ← become command (← get).environment
  failWith (if isMissing fault then 127 else 126)
    (ShownPath.literal (command.headD "") ++ ": " ++ fault.text)

/-- The adjustment among arguments, and the command behind it. A number behind a dash is one. -/
def adjustmentOf : Nat → List String → Option String → Job (Option String × List String)
  | 0, arguments, given => return (given, arguments)
  | fuel + 1, arguments, given => do
    match arguments with
    | [] => return (given, [])
    | a :: rest =>
      let isNumber :=
        match a.toList with
        | '-' :: '-' :: c :: _ | '-' :: '+' :: c :: _ | '-' :: c :: _ => c.isDigit
        | _ => false
      if isNumber then adjustmentOf fuel rest (some (a.drop 1).toString)
      else
        let t := OptionTable.ofTexts "n:" ["adjustment= n"] false 125
        let takesNext := a == "-n" || a.length > 2 && "--adjustment".startsWith a
        let (own, others) := if takesNext then ([a] ++ rest.take 1, rest.drop 1) else ([a], rest)
        if a == "--" then return (given, rest)
        else if !a.startsWith "-" || a == "-" then return (given, arguments)
        else
          let (found, _) ← t.parse own
          adjustmentOf fuel others (Chosen.value? found "n")

def nice : Utility where
  name := "nice"
  operands := "[OPTION] [COMMAND [ARG]...]"
  work arguments := do
    let (given, command) ← adjustmentOf (arguments.length + 1) arguments none
    let change ← match given with
      | none => pure 10
      | some text =>
        match integer? text with
        | some n => pure n
        | none => failWith 125 ("invalid adjustment " ++ ShownPath.literal text)
    if command.isEmpty then
      if given.isSome then misuseWith 125 "a command must be given with an adjustment"
      else print (toString (← ask .niceness) ++ "\n")
    else
      ask (.setNiceness ((← ask .niceness) + change))
      handOver command

def handOverFully {α : Type} (command : List String) : Job α := do
  let fault ← become command (← get).environment
  failWith (if isMissing fault then 127 else 126)
    ("failed to run command " ++ ShownPath.literal (command.headD "") ++ ": " ++ fault.text)

def nohup : Utility where
  name := "nohup"
  operands := "COMMAND [ARG]..."
  work arguments := do
    let t := OptionTable.ofTexts "" [] false 125
    let (_, command) ← t.parse arguments
    if command.isEmpty then misuseWith 125 "missing operand"
    ask (.react 1 .ignore)
    handOverFully command

def setsid : Utility where
  name := "setsid"
  title := "setsid from util-linux 2.39.3"
  work arguments := do
    let t := OptionTable.ofTexts "cfw" ["ctty c", "fork f", "wait w"] false 1
    let (found, command) ← t.parse arguments
    if command.isEmpty then misuse "no command specified"
    let missing (fault : FileFault) : String :=
      "failed to execute " ++ command.headD "" ++ ": " ++ fault.text
    let status (fault : FileFault) : Nat := if isMissing fault then 127 else 126
    let environment := (← get).environment
    if Chosen.has found "f" then
      let missing (fault : FileFault) : String := "setsid: " ++ missing fault ++ "\n"
      let pid ← start command environment missing status
      if Chosen.has found "w" then
        match ← awaitEnd pid maxRounds with
        | .exited n => throw n
        | .killed n => throw (128 + n)
    else
      ask .leadGroup
      if Chosen.has found "c" then
        fail "failed to set the controlling terminal: Inappropriate ioctl for device"
      let fault ← become command environment
      failWith (status fault) (missing fault)

def stdbuf : Utility where
  name := "stdbuf"
  operands := "OPTION... COMMAND"
  work arguments := do
    let t := OptionTable.ofTexts "i:o:e:" ["input= i", "output= o", "error= e"] false 125
    let (found, command) ← t.parse arguments
    for (key, value) in found do
      let mode := value.getD ""
      if mode == "L" then
        if key == "i" then misuseWith 125 "line buffering stdin is meaningless"
      else
        match readSize "EGkKMPQRTYZ" mode with
        | .ok _ => pure ()
        | .error .tooLarge =>
          failWith 125 ("invalid mode " ++ ShownPath.literal mode ++
            ": Value too large for defined data type")
        | .error .invalid => failWith 125 ("invalid mode " ++ ShownPath.literal mode)
    if command.isEmpty then misuseWith 125 "missing operand"
    if found.isEmpty then misuseWith 125 "you must specify a buffering mode option"
    handOverFully command

def spelled? (text : String) : Option Exact :=
  let lower := (String.ofList (text.toList.dropWhile isLeadingBlank)).toLower
  let bare := if lower.startsWith "+" then (lower.drop 1).toString else lower
  if bare == "inf" || bare == "infinity" then some ⟨Nat.pow 10 30, 0⟩
  else (Exact.ofHex? bare).orElse fun _ => Exact.ofText? text

/-- How long a text says, in nanoseconds: a number that is not below zero, and perhaps a unit. -/
def duration? (text : String) : Option Nat := do
  let scaled (x : Exact) (unit : Nat) : Option Nat :=
    if x.digits < 0 then none else some (x.digits.natAbs * unit * 1000000000 / Nat.pow 10 x.places)
  match spelled? text with
  | some x => scaled x 1
  | none =>
    let unit ← [('s', 1), ('m', 60), ('h', 3600), ('d', 86400)].lookup (← text.toList.getLast?)
    scaled (← spelled? (text.dropEnd 1).toString) unit

def sleep : Utility where
  name := "sleep"
  operands := "NUMBER[SUFFIX]..."
  work arguments := do
    let t := OptionTable.ofTexts "" [] false 1
    let (_, words) ← t.parse arguments
    if words.isEmpty then misuse "missing operand"
    let mut total := 0
    let mut isWrong := false
    for word in words do
      match duration? word with
      | some d => total := total + d
      | none =>
        complain ("invalid time interval " ++ ShownPath.literal word)
        isWrong := true
    if isWrong then hint 1
    let _ ← ask (.sleep total)

structure Stopping where
  signal : Nat
  isVerbose : Bool
  isForeground : Bool
  command : String
  keeper : Nat

def Stopping.send (s : Stopping) (pid number : Nat) : Program Unit := do
  if s.isVerbose then
    let _ ← Program.ask (.write 2 ("timeout: sending signal " ++
      (Signal.name? number).getD (toString number) ++ " to command " ++
      ShownPath.literal s.command ++ "\n"))
  let _ ← Program.ask (.signal pid number)
  if !s.isForeground then
    let _ ← Program.ask (.signalGroup s.keeper number)

def alarm (s : Stopping) (pid duration : Nat) (again : Option Nat) : Process :=
  let p : Program Nat := do
    -- Signals for the group are not meant for this process.
    let _ ← Program.ask .leadGroup
    let _ ← Program.ask (.sleep duration)
    s.send pid s.signal
    if let some d := again then
      let _ ← Program.ask (.sleep d)
      s.send pid Signal.kill
    return 0
  p.process

def timeout : Utility where
  name := "timeout"
  operands := "[OPTION] DURATION COMMAND [ARG]..."
  work arguments := do
    let t := OptionTable.ofTexts "k:s:v"
      ["kill-after= k", "signal= s", "verbose v", "foreground f", "preserve-status p"] false 125
    let (found, words) ← t.parse arguments
    let durationOf (text : String) : Job Nat := do
      match duration? text with
      | some d => return d
      | none => misuseWith 125 ("invalid time interval " ++ ShownPath.literal text)
    let again ← (Chosen.value? found "k").mapM durationOf
    let number ←
      match Chosen.value? found "s" with
      | none => pure Signal.terminate
      | some text =>
        match signal? text with
        | some n => pure n
        | none => misuseWith 125 (ShownPath.literal text ++ ": invalid signal")
    match words with
    | [] | [_] => hint 125
    | limit :: command =>
      let limit ← durationOf limit
      let isForeground := Chosen.has found "f"
      let own ← ask .self
      if !isForeground then ask .leadGroup
      let name := (← get).name
      let missing (fault : FileFault) : String :=
        name ++ ": failed to run command " ++ ShownPath.literal (command.headD "") ++ ": " ++
          fault.text ++ "\n"
      let status (fault : FileFault) : Nat := if isMissing fault then 127 else 126
      let begun ← ask .clock
      let pid ← start command (← get).environment missing status
      let stopping : Stopping :=
        ⟨number, Chosen.has found "v", isForeground, command.headD "", own⟩
      -- What is sent to the command's group does not end its keeper, unless nothing can be done.
      if number ≠ Signal.kill then ask (.react number .ignore)
      let watch ←
        if limit = 0 then pure none
        else some <$> ExceptT.lift (StateT.lift (Program.fork (alarm stopping pid limit again)))
      let how ← awaitEnd pid maxRounds
      let now ← ask .clock
      let isLate := limit > 0 && begun + limit ≤ now
      if let some w := watch then
        let _ ← ask (.signal w Signal.kill)
        let _ ← awaitEnd w maxRounds
      let keepsStatus := Chosen.has found "p"
      match how with
      | .exited n => throw (if isLate && !keepsStatus then 124 else n)
      | .killed n =>
        if isLate then throw (if n ≠ Signal.kill && !keepsStatus then 124 else 128 + n)
        else
          flush
          ask (.react n .usual)
          let _ ← ask (.signal own n)
          throw (128 + n)

end Starting

end ServerKeeper.Tool
