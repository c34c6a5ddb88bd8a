import ServerKeeper.Tool.Lines
import ServerKeeper.Tool.Starting
import ServerKeeper.Tool.StreamEditor.Reading

namespace ServerKeeper.Tool.StreamEditor

open Job Host

/-- An open input: the lines that were read and not taken yet, and the start of one more. -/
structure Source where
  fd : Nat
  ready : List String
  started : String
  isOver : Bool

namespace Source

def ofDescriptor (fd : Nat) : Source := ⟨fd, [], "", false⟩

def filled (mark : Char) : Nat → Source → Job (Except FileFault Source)
  | 0, s => return .ok s
  | fuel + 1, s => do
    if s.isOver || !s.ready.isEmpty then return .ok s
    else
      match ← ask (.read s.fd 4096) with
      | .error fault => return .error fault
      | .ok piece =>
        if piece.isEmpty then return .ok { s with isOver := true }
        else
          let pieces := (s.started ++ piece).splitOn mark.toString
          filled mark fuel
            { s with ready := pieces.dropLast, started := pieces.getLast?.getD "" }

/-- Whether all lines were taken, after the input was read as far as it takes to know that. -/
def isEmpty (s : Source) : Bool := s.ready.isEmpty && s.started.isEmpty

def take? (s : Source) : Option (Line × Source) :=
  match s.ready with
  | text :: rest => some (⟨text, true⟩, { s with ready := rest })
  | [] => if s.started.isEmpty then none else some (⟨s.started, false⟩, { s with started := "" })

def unread (s : Source) : Nat :=
  s.ready.foldl (fun n text => n + text.length + 1) s.started.length

end Source

end ServerKeeper.Tool.StreamEditor

namespace ServerKeeper.Tool.StreamEditor

open Host
open Regex (Compiled slice)

structure Output where
  fd : Nat
  lacksEnd : Bool

instance : Inhabited Output := ⟨⟨1, false⟩⟩

inductive Addition
  | text (s : String)
  | file (path : String)

structure Setup where
  script : Script
  isSilent : Bool
  isSeparate : Bool
  isUnbuffered : Bool
  /-- Whether files are replaced by what is printed of them, and the names of the old ones. -/
  inPlace : Option String
  mark : Char
  width : Nat

structure Replacement where
  path : String
  fresh : String

structure Work where
  space : String
  isEnded : Bool
  held : String
  isHeldEnded : Bool
  lineNumber : Nat
  hasReplaced : Bool
  additions : List Addition
  activities : Array Activity
  lastUsed : Option Compiled
  paths : List String
  path : String
  source : Option Source
  startsAnew : Bool
  /-- The files that are written to: the output, the one for errors, those of the script, and the
  one that takes the place of an input. -/
  outputs : Array Output
  main : Nat
  replacement : Option Replacement
  sources : List (String × Option Source)

abbrev Edit := ReaderT Setup (StateT Work Job)

namespace Edit

def job {α : Type} (a : Job α) : Edit α := fun _ w => do return (← a, w)

def ask (c : Call) : Edit c.Reply := job (Job.ask c)

def say (text : String) : Edit Unit := do
  let _ ← ask (.write 2 ("sed: " ++ text ++ "\n"))

def giveUp {α : Type} (status : Nat) (text : String) : Edit α := do
  say text
  if let some r := (← get).replacement then
    let _ ← ask (.removeName r.fresh)
  job (throw status)

def writeRaw (index : Nat) (text : String) : Edit Unit := do
  let o := (← get).outputs[index]?.getD default
  if o.fd = 1 then
    job (Job.print text)
    if (← read).isUnbuffered then job Job.flush
  else if !text.isEmpty then
    let _ ← ask (.write o.fd text)

def finishLine (index : Nat) : Edit Unit := do
  let w ← get
  if (w.outputs[index]?.getD default).lacksEnd then
    set { w with outputs := w.outputs.modify index fun o => { o with lacksEnd := false } }
    writeRaw index (← read).mark.toString

def writeText (index : Nat) (text : String) : Edit Unit := do
  finishLine index
  writeRaw index text

def writeLine (index : Nat) (text : String) (isEnded : Bool) : Edit Unit := do
  if isEnded then writeText index (text.push (← read).mark)
  else
    writeText index text
    modify fun w =>
      { w with outputs := w.outputs.modify index fun o => { o with lacksEnd := true } }

def printSpace : Edit Unit := do
  let w ← get
  writeLine w.main w.space w.isEnded

def outputOf (path : String) : Edit Nat := do
  if path == "/dev/stdout" then return 0
  else if path == "/dev/stderr" then return 1
  else return 2 + ((← read).script.outputs.idxOf? path).getD 0

def printAdditions : Edit Unit := do
  let w ← get
  set { w with additions := [] }
  for a in w.additions.reverse do
    match a with
    | .text s => writeText w.main s
    | .file path =>
      finishLine w.main
      let content ←
        if path == "/dev/stdin" then job (Job.readRest 0)
        else job (Job.readInput (if path == "-" then "./-" else path))
      match content with
      | .ok text => writeRaw w.main text
      | .error _ => pure ()

def keptName (suffix path : String) : String :=
  let parts := path.splitOn "/"
  let base := parts.getLast?.getD path
  let place := String.join (parts.dropLast.map (· ++ "/"))
  let named :=
    if suffix.contains '*' then base.intercalate (suffix.splitOn "*") else base ++ suffix
  if named.contains '/' then named else place ++ named

def closeSource : Edit Unit := do
  let w ← get
  if let some s := w.source then
    if s.fd ≠ 0 then
      let _ ← ask (.close s.fd)
  match w.replacement, (← read).inPlace with
  | some r, some suffix =>
    let _ ← ask (.close (w.outputs.back?.getD default).fd)
    if !suffix.isEmpty then
      match ← ask (.move r.path (keptName suffix r.path)) with
      | .ok () => pure ()
      | .error fault =>
        giveUp 4 ("cannot rename " ++ r.path ++ ": " ++ fault.text)
    let _ ← ask (.move r.fresh r.path)
    set { w with source := none, replacement := none, outputs := w.outputs.pop, main := 0 }
  | _, _ => set { w with source := none }

def openReplacement (path : String) (mode : Nat) : Edit Unit := do
  let place := String.join ((path.splitOn "/").dropLast.map (· ++ "/"))
  let fresh := place ++ "sed" ++ toString (100000 + (← ask .clock).toNat % 900000)
  match ← ask (.openFile fresh ⟨true, true, false, true, true, false⟩ 0o600) with
  | .error fault =>
    giveUp 4 ("couldn't open temporary file " ++ (if place.isEmpty then "./" ++ fresh else fresh) ++
      ": " ++ fault.text)
  | .ok fd =>
    let _ ← ask (.setMode fresh mode)
    modify fun w =>
      { w with
        outputs := w.outputs.push ⟨fd, false⟩
        main := w.outputs.size
        replacement := some ⟨path, fresh⟩ }

def openSource (path : String) : Edit Unit := do
  let c ← read
  if (← get).startsAnew then
    let mut sources := []
    for (name, source) in (← get).sources do
      if let some s := source then
        let _ ← ask (.seek s.fd 0)
        sources := (name, some (Source.ofDescriptor s.fd)) :: sources
    modify fun w =>
      { w with
        held := ""
        lineNumber := 0
        startsAnew := false
        activities := c.script.activities
        sources }
  if path == "-" && c.inPlace.isNone then
    modify fun w => { w with path := "-", source := some (.ofDescriptor 0) }
  else
    match ← ask (.openFile path .toRead 0) with
    | .error fault =>
      say ("can't read " ++ path ++ ": " ++ fault.text)
      job (Job.setStatus 2)
    | .ok fd =>
      modify fun w => { w with path, source := some (.ofDescriptor fd) }
      if c.inPlace.isSome then
        match ← ask (.statusOf fd) with
        | .ok s =>
          if s.content.isFile then openReplacement path (s.mode % 0o10000)
          else giveUp 4 ("couldn't edit " ++ path ++ ": not a regular file")
        | .error _ => pure ()
  modify fun w => { w with startsAnew := c.isSeparate }

def fill (silently : Bool) : Edit Bool := do
  let w ← get
  match w.source with
  | none => return false
  | some s =>
    match ← job (s.filled (← read).mark maxRounds) with
    | .ok s =>
      set { w with source := some s }
      return !s.isEmpty
    | .error fault =>
      if silently then return false
      else giveUp 4 ("read error on " ++ w.path ++ ": " ++ fault.text)

def advance (silently : Bool) : Nat → Edit Bool
  | 0 => return false
  | fuel + 1 => do
    closeSource
    match (← get).paths with
    | [] => return false
    | path :: rest =>
      modify fun w => { w with paths := rest }
      openSource path
      if ← fill silently then return true else advance silently fuel

def isLast : Edit Bool := do
  if ← fill true then return false
  else if (← read).isSeparate then return true
  else return !(← advance true ((← get).paths.length + 1))

def takeLine (appends : Bool) : Edit Bool := do
  printAdditions
  modify fun w => { w with hasReplaced := false }
  let isReady ← fill false
  let isReady ← if isReady then pure true else advance false ((← get).paths.length + 1)
  let source := (← get).source
  match if isReady then source.bind Source.take? else none with
  | none => return false
  | some (l, s) =>
    modify fun w =>
      { w with
        space := if appends then w.space ++ l.text else l.text
        isEnded := l.isEnded
        lineNumber := w.lineNumber + 1
        source := some s }
    return true

def used (e : Expression) : Edit Compiled := do
  match e with
  | some c =>
    modify fun w => { w with lastUsed := some c }
    return c
  | none =>
    match (← get).lastUsed with
    | some c => return c
    | none => giveUp 1 "-e expression #1, char 0: no previous regular expression"

def isFound (e : Expression) : Edit Bool := do
  return (← used e).isFoundIn (← get).space

def begins (a : Address) : Edit Bool := do
  let n := (← get).lineNumber
  match a with
  | .zero => return false
  | .line m => return n = m
  | .every first step => return if step = 0 then n = first else n ≥ first && (n - first) % step = 0
  | .last => isLast
  | .fits e => isFound e

def setActivity (index : Nat) (a : Activity) : Edit Unit :=
  modify fun w => { w with activities := w.activities.setIfInBounds index a }

def enter (index : Nat) (begun : Bool) (l : Limit) : Edit Bool := do
  let n := (← get).lineNumber
  let within (last : Nat) : Edit Bool := do
    setActivity index (if last ≤ n then .behind else .inside last)
    return true
  match l with
  | .line m =>
    setActivity index (if m ≤ n then .behind else .inside m)
    return n ≤ m || begun
  | .further m => within (n + m)
  | .multiple m => within (if m = 0 then n else (n / m + 1) * m)
  | .last =>
    setActivity index (if ← isLast then .behind else .inside 0)
    return true
  | .fits _ =>
    setActivity index (.inside 0)
    return true

/-- Whether a line is in the range of a command, whatever is said about lines that are not. A range
that begins at the number of a line begins behind it too, but not twice. -/
def isInRange (index : Nat) (r : Range) : Edit Bool := do
  match r.first, r.last with
  | none, _ => return true
  | some a, none => begins a
  | some a, some l =>
    let n := (← get).lineNumber
    let activity := (← get).activities[index]?.getD .outside
    match activity, a with
    | .inside last, _ =>
      match l with
      | .line m =>
        if m ≤ n then setActivity index .behind
        return n ≤ m
      | .further _ | .multiple _ =>
        if last ≤ n then setActivity index .behind
        return true
      | .last =>
        if ← isLast then setActivity index .behind
        return true
      | .fits e =>
        if ← isFound e then setActivity index .behind
        return true
    | .behind, .line _ => return false
    | _, .line m => if n < m then return false else enter index (n = m) l
    | _, _ => if ← begins a then enter index true l else return false

structure Manner where
  all : Option CaseChange
  one : Option CaseChange

def changed (c : Option CaseChange) (x : Char) : Char :=
  match c with
  | some .upper | some .upperNext => x.toUpper
  | some .lower | some .lowerNext => x.toLower
  | _ => x

def inManner (m : Manner) (text : String) : Manner × String :=
  match text.toList with
  | [] => (m, "")
  | c :: cs =>
    let first := if m.one.isSome then changed m.one c else changed m.all c
    (⟨m.all, none⟩, String.ofList (first :: cs.map (changed m.all)))

def replacementFor (text : Array Char) (m : Regex.Match) (parts : List Part) : String :=
  let step (state : Manner × List String) (p : Part) : Manner × List String :=
    let (manner, pieces) := state
    let add (s : String) : Manner × List String :=
      let (manner, s) := inManner manner s
      (manner, s :: pieces)
    match p with
    | .text s => add s
    | .group n => add ((m.group? n).elim "" fun (a, b) => slice text a b)
    | .change c =>
      match c with
      | .upper | .lower => (⟨some c, none⟩, pieces)
      | .stop => (⟨none, none⟩, pieces)
      | .upperNext | .lowerNext => (⟨manner.all, some c⟩, pieces)
  String.join (parts.foldl step (⟨none, none⟩, [])).2.reverse

/-- Replaces matches. Gives the pieces of the new text, the last one first, and whether there was a
match that counts. An empty match right behind another match is none. -/
def substituted (s : Substitution) (c : Compiled) (text : Array Char) :
    Nat → Nat → Nat → Option Nat → List String → Bool → Compiled.Marks → List String × Bool
  | 0, _, _, _, pieces, found, _ => (pieces, found)
  | fuel + 1, count, start, before, pieces, found, marks =>
    if start > text.size then (pieces, found)
    else
      match c.searchWith text start marks with
      | (none, _) => (slice text start text.size :: pieces, found)
      | (some m, marks) =>
        let pieces := slice text start m.start :: pieces
        let isEmpty := m.start = m.stop
        let passed := slice text m.start (m.start + 1) :: pieces
        if isEmpty && before = some m.start then
          substituted s c text fuel count (m.start + 1) none passed found marks
        else if count + 1 < s.nth then
          if isEmpty then
            substituted s c text fuel (count + 1) (m.start + 1) none passed found marks
          else
            substituted s c text fuel (count + 1) m.stop (some m.stop)
              (slice text m.start m.stop :: pieces) found marks
        else
          let pieces := replacementFor text m s.parts :: pieces
          if !s.isGlobal then (slice text m.stop text.size :: pieces, true)
          else if isEmpty then
            substituted s c text fuel (count + 1) (m.start + 1) none
              (slice text m.start (m.start + 1) :: pieces) true marks
          else substituted s c text fuel (count + 1) m.stop (some m.stop) pieces true marks

def outputOfShell (command : String) : Edit String := do
  job Job.flush
  let environment := (← job get).environment
  let (out, into) ← ask .pipe
  let pid ← job (Job.fork do
    let _ ← Job.ask (.duplicate into 1)
    let _ ← Job.ask (.close into)
    let _ ← Job.ask (.close out)
    let _ ← Job.execute "/bin/sh" ["sh", "-c", command] environment
    Job.stop 127)
  let _ ← ask (.close into)
  let text ← job (Job.readRest out)
  let _ ← ask (.close out)
  let _ ← job (Job.awaitEnd pid maxRounds)
  return text.toOption.getD ""

def withoutMark (mark : Char) (text : String) : String :=
  if text.endsWith mark.toString then (text.dropEnd 1).toString else text

def substitute (s : Substitution) : Edit Unit := do
  let c ← used s.expression
  let w ← get
  let text := w.space.toList.toArray
  let (pieces, found) := substituted s c text (text.size + 3) 0 0 none [] false (c.fresh text)
  if found then
    set { w with space := String.join pieces.reverse, hasReplaced := true }
    if s.executes then
      let out ← outputOfShell (← get).space
      let space := withoutMark (← read).mark out
      modify fun w => { w with space }
    if s.prints then printSpace
    if let some path := s.file then
      let w ← get
      writeLine (← outputOf path) w.space w.isEnded

def shown (c : Char) : String :=
  let n := c.toNat
  if c = '\\' then "\\\\"
  else if 32 ≤ n && n < 127 then c.toString
  else
    match c with
    | '\x07' => "\\a"
    | '\x08' => "\\b"
    | '\x0c' => "\\f"
    | '\n' => "\\n"
    | '\r' => "\\r"
    | '\t' => "\\t"
    | '\x0b' => "\\v"
    | _ => "\\" ++ String.ofList (Nat.toDigits 8 (512 + n) |>.drop 1)

def shownLines (mark : Char) (width : Nat) (text : String) : String :=
  let step (state : Nat × String) (c : Char) : Nat × String :=
    let (used, out) := state
    let s := shown c
    if 0 < width && used + s.length > width - 1 then (s.length, out ++ "\\" ++ mark.toString ++ s)
    else (used + s.length, out ++ s)
  (text.foldl step (0, "")).2 ++ "$"

def lineOf (path : String) : Edit (Option Line) := do
  let w ← get
  let mark := (← read).mark
  let known ←
    match w.sources.lookup path with
    | some s => pure s
    | none =>
      if path == "/dev/stdin" then pure (some (Source.ofDescriptor 0))
      else
        match ← ask (.openFile path .toRead 0) with
        | .ok fd => pure (some (Source.ofDescriptor fd))
        | .error _ => pure none
  let keep (s : Option Source) : Edit Unit :=
    modify fun w => { w with sources := (path, s) :: w.sources.filter (·.1 != path) }
  match known with
  | none =>
    keep none
    return none
  | some s =>
    match ← job (s.filled mark maxRounds) with
    | .error _ =>
      keep none
      return none
    | .ok s =>
      match s.take? with
      | none =>
        keep (some s)
        return none
      | some (l, s) =>
        keep (some s)
        return some l

inductive Turn
  | next
  | goTo (index : Nat)
  | done (prints : Bool)
  | again
  | quit (status : Nat)

def run (index : Nat) (c : Command) : Edit Turn := do
  let k ← read
  let w ← get
  let upTo (text : String) : String := String.ofList (text.toList.takeWhile (· ≠ k.mark))
  let setSpace (text : String) : Edit Turn := do
    modify fun w => { w with space := text }
    return .next
  let shownText (text : String) : String :=
    if text.endsWith "\n" then (text.dropEnd 1).toString.push k.mark else text
  match c.action with
  | .openBlock _ | .closeBlock | .nothing => return .next
  | .append text =>
    modify fun w => { w with additions := .text text :: w.additions }
    return .next
  | .insert text =>
    writeText w.main (shownText text)
    return .next
  | .change text =>
    let isInside :=
      match w.activities[index]?.getD .outside with
      | .inside _ => true
      | _ => false
    if !isInside then writeText w.main (shownText text)
    return .done false
  | .branch ifReplaced target =>
    match ifReplaced with
    | none => return .goTo target
    | some wanted =>
      set { w with hasReplaced := false }
      return if w.hasReplaced = wanted then .goTo target else .next
  | .delete => return .done false
  | .deleteLine =>
    if w.space.contains k.mark then
      set { w with space := (w.space.drop ((upTo w.space).length + 1)).toString }
      return .again
    else return .done false
  | .execute command =>
    if command.isEmpty then
      let out ← outputOfShell w.space
      setSpace (withoutMark k.mark out)
    else
      let out ← outputOfShell command
      writeText w.main out
      return .next
  | .fileName =>
    writeText w.main (w.path.push k.mark)
    return .next
  | .getHeld =>
    set { w with space := w.held, isEnded := w.isHeldEnded }
    return .next
  | .addHeld =>
    modify fun w => { w with space := w.space.push k.mark ++ w.held, isEnded := w.isHeldEnded }
    return .next
  | .hold =>
    set { w with held := w.space, isHeldEnded := w.isEnded }
    return .next
  | .holdMore =>
    modify fun w => { w with held := w.held.push k.mark ++ w.space, isHeldEnded := w.isEnded }
    return .next
  | .list width =>
    writeText w.main ((shownLines k.mark (width.getD k.width) w.space).push k.mark)
    return .next
  | .next =>
    if ← isLast then return .done true
    else
      if !k.isSilent then printSpace
      let _ ← takeLine false
      return .next
  | .appendNext =>
    if ← isLast then return .done true
    else
      modify fun w => { w with space := w.space.push k.mark }
      let _ ← takeLine true
      return .next
  | .print =>
    printSpace
    return .next
  | .printLine =>
    let first := upTo w.space
    writeLine w.main first (w.isEnded || first.length < w.space.length)
    return .next
  | .quit status isSilent =>
    if !isSilent then
      if !k.isSilent then printSpace
      finishLine w.main
      printAdditions
    return .quit status
  | .readFile path =>
    modify fun w => { w with additions := .file path :: w.additions }
    return .next
  | .readLineOf path =>
    if let some l ← lineOf path then
      modify fun w => { w with additions := .text (l.endedBy k.mark) :: w.additions }
    return .next
  | .substitute s =>
    substitute s
    return .next
  | .writeAll path =>
    writeLine (← outputOf path) w.space w.isEnded
    return .next
  | .writeLine path =>
    let first := upTo w.space
    writeLine (← outputOf path) first (w.isEnded || first.length < w.space.length)
    return .next
  | .exchange =>
    set { w with
      space := w.held
      isEnded := w.isHeldEnded
      held := w.space
      isHeldEnded := w.isEnded }
    return .next
  | .transliterate pairs =>
    setSpace (w.space.map fun c => (pairs.lookup c).getD c)
  | .zap => setSpace ""
  | .number =>
    writeText w.main ((toString w.lineNumber).push k.mark)
    return .next

def runFrom : Nat → Nat → Edit Turn
  | 0, _ => return .quit 4
  | fuel + 1, index => do
    match (← read).script.commands[index]? with
    | none => return .done true
    | some c =>
      if (← isInRange index c.range) != c.range.isNegated then
        match ← run index c with
        | .next => runFrom fuel (index + 1)
        | .goTo target => runFrom fuel target
        | turn => return turn
      else
        match c.action with
        | .openBlock close => runFrom fuel (close + 1)
        | _ => runFrom fuel (index + 1)

/-- Runs one cycle after another, and lets others have a turn between them. Gives the status that a
command ends the editor with. -/
def cycles : Nat → Bool → Edit Nat
  | 0, _ => return 0
  | fuel + 1, takes => do
    let _ ← ask .self
    if ← (if takes then takeLine false else pure true) then
      match ← runFrom maxRounds 0 with
      | .quit status => return status
      | .again => cycles fuel false
      | .done prints =>
        if prints && !(← read).isSilent then printSpace
        cycles fuel true
      | .next | .goTo _ => cycles fuel true
    else return 0

def openOutputs : List String → Edit Unit
  | [] => pure ()
  | path :: rest => do
    if path == "/dev/stdout" || path == "/dev/stderr" then
      modify fun w => { w with outputs := w.outputs.push ⟨2, false⟩ }
    else
      match ← ask (.openFile path .toWrite 0o666) with
      | .ok fd => modify fun w => { w with outputs := w.outputs.push ⟨fd, false⟩ }
      | .error fault => giveUp 4 ("couldn't open file " ++ path ++ ": " ++ fault.text)
    openOutputs rest

def whole : Edit Unit := do
  openOutputs (← read).script.outputs
  let status ← cycles maxRounds true
  let w ← get
  if let some s := w.source then
    if s.fd = 0 then
      let _ ← ask (.skipBack 0 s.unread)
  closeSource
  if status ≠ 0 && (← job get).status = 0 then job (Job.setStatus status)

end Edit

end ServerKeeper.Tool.StreamEditor
