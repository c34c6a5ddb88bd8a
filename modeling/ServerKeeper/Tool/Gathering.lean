import ServerKeeper.Decimal.Scanned
import ServerKeeper.Tool.Lines
import ServerKeeper.Tool.Starting

namespace ServerKeeper.Tool.Gathering

open Job Host

structure Piece where
  text : String
  endsLine : Bool

def isSpace (c : Char) : Bool := c = ' ' || '\t' ≤ c && c ≤ '\r'

inductive Stage
  | before
  | within
  | quote (c : Char)
  | escape

def pieces (byLines : Bool) : Stage → List Char → List Char → Bool → List Piece × Option Char
  | stage, [], acc, isBegun =>
    match stage with
    | .quote c => ([], some c)
    | _ => (if isBegun && !acc.isEmpty then [⟨String.ofList acc.reverse, true⟩] else [], none)
  | .before, c :: rest, acc, isBegun =>
    if isSpace c then pieces byLines .before rest acc isBegun
    else if c = '\\' then pieces byLines .escape rest acc true
    else if c = '\'' || c = '"' then pieces byLines (.quote c) rest acc true
    else pieces byLines .within rest (c :: acc) true
  | .within, c :: rest, acc, isBegun =>
    let done (endsLine : Bool) : List Piece × Option Char :=
      let (more, fault) := pieces byLines .before rest [] false
      (⟨String.ofList acc.reverse, endsLine⟩ :: more, fault)
    if c = '\n' then done true
    else if !byLines && isBlank c then done false
    else if c = '\\' then pieces byLines .escape rest acc isBegun
    else if c = '\'' || c = '"' then pieces byLines (.quote c) rest acc isBegun
    else pieces byLines .within rest (c :: acc) isBegun
  | .quote q, c :: rest, acc, isBegun =>
    if c = '\n' then ([], some q)
    else if c = q then pieces byLines .within rest acc isBegun
    else pieces byLines (.quote q) rest (c :: acc) isBegun
  | .escape, c :: rest, acc, isBegun => pieces byLines .within rest (c :: acc) isBegun

/-- The parts of an input between characters. What stands behind the last one counts unless it is
empty. -/
def piecesBetween (c : Char) (text : String) : List Piece :=
  let parts := text.splitOn c.toString
  let parts := if parts.getLast?.any (·.isEmpty) then parts.dropLast else parts
  parts.map (⟨·, true⟩)

structure Order where
  separation : Option Char
  marker : Option String
  end_ : Option String
  mostArguments : Option Nat
  mostLines : Option Nat
  size : Nat
  strict : Bool
  shows : Bool
  asks : Bool
  skipsEmpty : Bool
  input : Option String

structure State where
  waiting : List String
  size : Nat
  lines : Nat
  runs : Nat
  failed : Bool

abbrev Gatherer := StateT State Job

def job {α : Type} (a : Job α) : Gatherer α := StateT.lift a

def launch (o : Order) (words : List String) : Gatherer Unit := do
  if o.shows || o.asks then
    let text := " ".intercalate (words.map ShownPath.plain)
    job (tell (if o.asks then text else text ++ "\n"))
    if o.asks then
      job (tell ((← job get).name ++
        ": failed to open /dev/tty for reading: No such device or address\n"))
      job (stop 1)
  job flush
  let environment := (← job get).environment
  let (out, into) ← job (ask .pipe)
  let pid ← job (fork do
    let _ ← ask (.close out)
    if o.input.isNone then
      match ← ask (.openFile "/dev/null" .toRead 0) with
      | .ok fd =>
        let _ ← ask (.duplicate fd 0)
        let _ ← ask (.close fd)
      | .error _ => pure ()
    let saved ← ask (.save into 10)
    let _ ← ask (.close into)
    let fault ← become words environment
    let _ ← ask (.write (saved.getD into) fault.text)
    throw (if Starting.isMissing fault then 127 else 126))
  let _ ← job (ask (.close into))
  let trouble ←
    match ← job (readRest out) with
    | .ok text => pure text
    | .error _ => pure ""
  let _ ← job (ask (.close out))
  let how ← job (awaitEnd pid maxRounds)
  let what := words.headD ""
  modify fun s => { s with runs := s.runs + 1 }
  match how with
  | .killed n =>
    job (failWith 125 (what ++ ": terminated by signal " ++ toString n))
  | .exited n =>
    if !trouble.isEmpty then job (failWith n (what ++ ": " ++ trouble))
    else if n = 255 then job (failWith 124 (what ++ ": exited with status 255; aborting"))
    else if n ≠ 0 then modify fun s => { s with failed := true }

def sizeOf (words : List String) : Nat := words.foldl (fun n w => n + w.utf8ByteSize + 1) 0

def runWaiting (o : Order) (command : List String) : Gatherer Unit := do
  let s : State ← getThe State
  modify fun s => { s with waiting := [], size := sizeOf command, lines := 0 }
  launch o (command ++ s.waiting.reverse)

def tooLong {α : Type} : Gatherer α := job (fail "argument line too long")

def take (o : Order) (command : List String) (text : String) : Gatherer Unit := do
  if text.utf8ByteSize + sizeOf command + 1 > o.size then
    if !(← getThe State).waiting.isEmpty then runWaiting o command
    tooLong
  let size := text.utf8ByteSize + 1
  let s : State ← getThe State
  if s.size + size > o.size then
    if o.strict && (o.mostArguments.isSome || o.mostLines.isSome) then
      job (fail "argument list too long")
    runWaiting o command
  modify fun s => { s with waiting := text :: s.waiting, size := s.size + size }
  if o.mostArguments = some (← getThe State).waiting.length then runWaiting o command

def cut (hasWarned : Bool) (p : Piece) : Gatherer (String × Bool) := do
  let kept := String.ofList (p.text.toList.takeWhile (· ≠ '\x00'))
  if kept.length = p.text.length then return (kept, hasWarned)
  else
    if !hasWarned then
      job (tell ((← job get).name ++ ": WARNING: a NUL character occurred in the input.  " ++
        "It cannot be passed through in the argument list.  " ++
        "Did you mean to use the --null option?\n"))
    return (kept, true)

def takeAll (o : Order) (command : List String) : List Piece → Bool → Gatherer Unit
  | [], _ => pure ()
  | p :: rest, hasWarned => do
    let (text, hasWarned) ← cut hasWarned p
    if o.separation.isNone && o.end_ = some text then pure ()
    else
      match o.marker with
      | some m =>
        let words := command.map fun w => text.intercalate (w.splitOn m)
        if sizeOf words > o.size then job (fail "argument list too long")
        launch o words
      | none =>
        take o command text
        if p.endsLine then modify fun s => { s with lines := s.lines + 1 }
        if o.mostLines.any (· ≤ (← getThe State).lines) then runWaiting o command
      takeAll o command rest hasWarned

def whole (o : Order) (command : List String) : Gatherer Unit := do
  let text ←
    match o.input with
    | none =>
      match ← job (readRest 0) with
      | .ok text => pure text
      | .error _ => pure ""
    | some path =>
      match ← job (readInput path) with
      | .ok text => pure text
      | .error fault =>
        job (fail ("Cannot open input file " ++ ShownPath.literal path ++ ": " ++ fault.text))
  let (ps, fault) :=
    match o.separation with
    | some c => (piecesBetween c text, none)
    | none => pieces o.marker.isSome .before text.toList [] false
  if sizeOf command > o.size then
    job (fail "cannot fit single argument within argument list size limit")
  takeAll o command ps false
  if !(← getThe State).waiting.isEmpty then runWaiting o command
  match fault with
  | some q =>
    let kind := if q = '"' then "double" else "single"
    job (fail ("unmatched " ++ kind ++
      " quote; by default quotes are special to xargs unless you use the -0 option"))
  | none => pure ()
  let runs := (← getThe State).runs
  if runs = 0 && !o.skipsEmpty && o.marker.isNone then runWaiting o command

def separator (text : String) : Job Char := do
  match text.toList with
  | [c] => return c
  | '\\' :: rest =>
    let named :=
      [('a', '\x07'), ('b', '\x08'), ('f', '\x0c'), ('n', '\n'), ('r', '\r'), ('t', '\t'),
      ('v', '\x0b'), ('\\', '\\')]
    match rest with
    | 'x' :: digits =>
      if !digits.isEmpty && digits.all Decimal.Scanned.isHex then
        return Char.ofNat (Decimal.Scanned.hexNumber digits)
    | '0' :: digits =>
      if digits.all fun c => '0' ≤ c && c ≤ '7' then
        return Char.ofNat (digits.foldl (fun n c => 8 * n + (c.toNat - 48)) 0)
    | [c] =>
      match named.lookup c with
      | some c => return c
      | none => pure ()
    | _ => pure ()
    fail ("Invalid escape sequence " ++ text ++ " in input delimiter specification.")
  | _ =>
    fail ("Invalid input delimiter specification " ++ text ++
      ": the delimiter must be either a single character or an escape sequence starting with \\.")

def number (letter text : String) (least : Nat) : Job Nat := do
  let digits := if text.startsWith "-" then (text.drop 1).toString else text
  match natural? digits with
  | some n =>
    if text.startsWith "-" && n > 0 || n < least then
      complain ("value " ++ text ++ " for -" ++ letter ++ " option should be >= " ++ toString least)
      hint 1
    else return n
  | none =>
    complain ("invalid number \"" ++ text ++ "\" for -" ++ letter ++ " option")
    hint 1

def conflict (option offending : String) : Job Unit := do
  tell ((← get).name ++ ": warning: options " ++ offending ++ " and " ++ option ++
    " are mutually exclusive, ignoring previous " ++ offending ++ " value\n")

def heed (o : Order) (key : String) (value : Option String) : Job Order := do
  let text := value.getD ""
  match key with
  | "0" => return { o with separation := some '\x00' }
  | "d" => return { o with separation := some (← separator text) }
  | "a" => return { o with input := some text }
  | "E" | "e" => return { o with end_ := value.filter (!·.isEmpty) }
  | "I" | "i" =>
    if o.mostArguments.isSome then conflict "--replace/-I/-i" "--max-args"
    if o.mostLines.isSome then conflict "--replace/-I/-i" "--max-lines"
    let marker := some (value.getD "\x7b\x7d")
    return { o with marker, mostArguments := none, mostLines := none }
  | "L" | "l" =>
    let n ← if value.isNone then pure 1 else number key text 1
    if o.mostArguments.isSome then conflict "--max-lines" "--max-args"
    if o.marker.isSome then conflict "--max-lines" "--replace"
    return { o with mostLines := some n, mostArguments := none, marker := none }
  | "n" =>
    let n ← number "n" text 1
    if o.mostLines.isSome then conflict "--max-args/-n" "--max-lines"
    if o.marker.isSome && n = 1 then return { o with mostLines := none }
    else
      if o.marker.isSome then conflict "--max-args/-n" "--replace"
      return { o with mostArguments := some n, mostLines := none, marker := none }
  | "P" =>
    let _ ← number "P" text 0
    return o
  | "s" => return { o with size := ← number "s" text 1 }
  | "x" => return { o with strict := true }
  | "t" => return { o with shows := true }
  | "p" => return { o with shows := true, asks := true }
  | "r" => return { o with skipsEmpty := true }
  | _ => return o

def xargs : Utility where
  name := "xargs"
  title := "xargs (GNU findutils) 4.9.0"
  operands := "[OPTION]... COMMAND [INITIAL-ARGS]..."
  work arguments := do
    let t := OptionTable.ofTexts "0a:d:E:e::i::I:l::L:n:oprs:txP:"
      ["arg-file= a", "delimiter= d", "eof? e", "replace? I", "max-lines? l", "max-args= n",
       "open-tty o", "interactive p", "no-run-if-empty r", "max-chars= s", "verbose t",
       "show-limits limits", "exit x", "max-procs= P", "null 0", "process-slot-var= slot"] false 1
    let (found, command) ← t.parse arguments
    let mut o : Order :=
      { separation := none
        marker := none
        end_ := none
        mostArguments := none
        mostLines := none
        size := 131072
        strict := false
        shows := false
        asks := false
        skipsEmpty := false
        input := none }
    for (key, value) in found do o ← heed o key value
    let command := if command.isEmpty then ["echo"] else command
    let start : State := ⟨[], sizeOf command, 0, 0, false⟩
    let ((), s) ← StateT.run (whole o command) start
    if s.failed then setStatus 123

end ServerKeeper.Tool.Gathering
