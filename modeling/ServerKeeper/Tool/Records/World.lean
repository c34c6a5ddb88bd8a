import ServerKeeper.Tool.Records.Pattern
import ServerKeeper.Tool.Records.Table
import ServerKeeper.Tool.Starting

namespace ServerKeeper.Tool.Records

open Host

/-- An input, the records of it that are ready, each with what stands behind it, and what was read
behind them. -/
structure Stream where
  fd : Nat
  ready : List (String × String)
  rest : String
  isOver : Bool
  pid : Option Nat

/-- An output that is not the usual one, and what was not written yet, the last piece first. -/
structure Sink where
  fd : Nat
  waiting : List String
  size : Nat
  pid : Option Nat

inductive Slot
  | value (v : Value)
  | table (n : Nat)

instance : Inhabited Slot := ⟨.value .nothing⟩

structure Record where
  text : String
  isWhole : Bool
  isSplit : Bool
  fields : Array Value
  separator : Separator
  byLines : Bool

structure World where
  program : Program
  values : Array Value
  /-- The arrays of the whole program, and those of the calls that are under way. -/
  tables : Array Table
  locals : Array Slot
  record : Record
  fieldSeparator : Separator
  recordSeparator : Separator
  main : Option Stream
  nextArgument : Nat
  hadFile : Bool
  isDone : Bool
  inputs : List ((Bool × String) × Stream)
  outputs : List ((Bool × String) × Sink)
  inRange : Array Bool
  seed : Float
  state : Nat
  status : Nat
  breath : Nat

inductive Departure
  | leave
  | goOn
  | next
  | nextFile
  | exit
  | give (v : Value)
  | crash

abbrev Act := ExceptT Departure (StateT World Job)

namespace Act

def job {α : Type} (a : Job α) : Act α := ExceptT.lift (StateT.lift a)

def ask (c : Call) : Act c.Reply := job (Job.ask c)

/-- Says what went wrong, without regard to what was printed before, and ends the program. -/
def crash {α : Type} (text : String) : Act α := do
  let name := (← job get).name
  let _ ← ask (.write 2 (name ++ ": " ++ text ++ "\n"))
  modify fun w => { w with status := 2 }
  throw .crash

def valueAt (i : Nat) : Act Value := do return (← get).values.getD i .nothing

def textAt (name : String) : Act String := do
  return (← valueAt (known name)).toText "%.6g"

def putValue (i : Nat) (v : Value) : Act Unit :=
  modify fun w => { w with values := w.values.setIfInBounds i v }

def conversion : Act String := textAt "CONVFMT"

def textOf (v : Value) : Act String := do
  match v with
  | .number x =>
    match Value.wholeText? x with
    | some s => return s
    | none => return v.toText (← conversion)
  | v => return v.toText ""

def fault {α : Type} (text : String) : Act α := do
  let file ← textAt "FILENAME"
  let shown (v : Value) : String := v.toText "%.6g"
  let fnr := shown (← valueAt (known "FNR"))
  let nr := shown (← valueAt (known "NR"))
  crash ("run time error: " ++ text ++ "\n\tFILENAME=\"" ++ file ++ "\" FNR=" ++ fnr ++ " NR=" ++
    nr)

def tableOf (n : Name) : Act Nat := do
  match n with
  | .overall i => return i
  | .local i =>
    match (← get).locals.getD i default with
    | .table t => return t
    | .value _ => return 0

def onTable {α : Type} [Inhabited α] (n : Name) (f : Table → α × Table) : Act α := do
  let i ← tableOf n
  modifyGet fun w =>
    let t := w.tables.getD i .empty
    let w := { w with tables := w.tables.setIfInBounds i .empty }
    let (a, t) := f t
    (a, { w with tables := w.tables.setIfInBounds i t })

def putCount (n : Nat) : Act Unit := putValue (known "NF") (.ofNat n)

def setRecord (text : String) : Act Unit := do
  modify fun w =>
    { w with
      record :=
        { text
          isWhole := true
          isSplit := false
          fields := #[]
          separator := w.fieldSeparator
          byLines := match w.recordSeparator with
            | .blanks => true
            | _ => false } }

def splitRecord : Act Unit := do
  let r := (← get).record
  if !r.isSplit then
    let fields := ((r.separator.parts r.byLines r.text).map Value.input).toArray
    modify fun w => { w with record := { w.record with fields, isSplit := true } }
    putCount fields.size

def wholeRecord : Act String := do
  let r := (← get).record
  if r.isWhole then return r.text
  else
    let between ← textAt "OFS"
    let mut parts := []
    for v in r.fields do
      parts := (← textOf v) :: parts
    let text := between.intercalate parts.reverse
    modify fun w => { w with record := { w.record with text, isWhole := true } }
    return text

def fieldAt (i : Nat) : Act Value := do
  if i = 0 then return .input (← wholeRecord)
  else
    splitRecord
    return (← get).record.fields.getD (i - 1) .nothing

def resize (n : Nat) : Act Unit := do
  splitRecord
  modify fun w =>
    let fs := w.record.fields
    let fields :=
      if n ≤ fs.size then fs.extract 0 n else fs ++ Array.replicate (n - fs.size) (Value.input "")
    { w with record := { w.record with fields, isWhole := false } }
  putCount n

def setField (i : Nat) (v : Value) : Act Unit := do
  if i = 0 then setRecord (← textOf v)
  else
    splitRecord
    if (← get).record.fields.size < i then resize i
    modify fun w =>
      { w with
        record :=
          { w.record with fields := w.record.fields.setIfInBounds (i - 1) v, isWhole := false } }

/-- Gives a value to a name of the whole program. Some names mean something for the records. -/
def setOverall (i : Nat) (v : Value) : Act Unit := do
  if i ≥ knownNames.length then putValue i v
  else if i = known "NF" then
    let n := Value.wholePart v.toNumber
    if n < 0 then fault "negative value assigned to NF"
    else
      resize n.toNat
      putValue i v
  else
    putValue i v
    if i = known "FS" then
      match Separator.ofText (← textOf v) with
      | .ok s => modify fun w => { w with fieldSeparator := s }
      | .error why => crash why
    else if i = known "RS" then
      match Separator.ofRecordText (← textOf v) with
      | .ok s => modify fun w => { w with recordSeparator := s }
      | .error why => crash why

def getOverall (i : Nat) : Act Value := do
  if i = known "NF" then splitRecord
  valueAt i

def isUsual (path : String) : Bool := path == "-" || path == "/dev/stdout"

def flushSink (s : Sink) : Act Sink := do
  if s.fd = 1 then
    job Job.flush
    return s
  else if s.waiting.isEmpty then return s
  else
    let _ ← ask (.write s.fd (String.join s.waiting.reverse))
    return { s with waiting := [], size := 0 }

def flushAll : Act Unit := do
  job Job.flush
  let mut outputs := []
  for (key, s) in (← get).outputs do
    outputs := (key, ← flushSink s) :: outputs
  modify fun w => { w with outputs := outputs.reverse }

def start (shell command : String) (prepare : Job Unit) : Act Nat := do
  flushAll
  let w ← get
  let environment := (← job get).environment
  let fds := w.outputs.map (·.2.fd) ++ w.inputs.map (·.2.fd)
  job (Job.fork do
    prepare
    for fd in fds do
      if fd > 2 then
        let _ ← Job.ask (.close fd)
    let _ ← Job.execute "/bin/sh" [shell, "-c", command] environment
    Job.stop 127)

def endingNumber : Ending → Nat
  | .exited n => n
  | .killed n => 256 + n

def await (pid : Nat) : Act Nat := do
  return endingNumber (← job (Job.awaitEnd pid maxRounds))

def runCommand (command : String) : Act Nat := do
  let pid ← start "sh" command (pure ())
  await pid

def sinkFor (isCommand : Bool) (d : Direction) (path : String) : Act Sink := do
  match (← get).outputs.lookup (isCommand, path) with
  | some s => return s
  | none =>
    if isCommand then
      let (out, into) ← ask .pipe
      let pid ← start "/bin/sh" path do
        let _ ← Job.ask (.duplicate out 0)
        let _ ← Job.ask (.close out)
        let _ ← Job.ask (.close into)
      let _ ← ask (.close out)
      return ⟨into, [], 0, some pid⟩
    else if path == "/dev/stderr" then return ⟨2, [], 0, none⟩
    else
      let how := if d = .toEnd then Opening.toAppend else .toWrite
      match ← ask (.openFile path how 0o666) with
      | .ok fd => return ⟨fd, [], 0, none⟩
      | .error f => crash ("cannot open \"" ++ path ++ "\" for output (" ++ f.text ++ ")")

def printTo (direction : Option (Direction × String)) (text : String) : Act Unit := do
  match direction with
  | none => job (Job.print text)
  | some (d, path) =>
    let isCommand : Bool := d = .toCommand
    let path := if !isCommand && isUsual path then "/dev/stdout" else path
    let s ← sinkFor isCommand d path
    let s ←
      if s.fd = 1 then
        job (Job.print text)
        pure s
      else
        let s := { s with waiting := text :: s.waiting, size := s.size + text.length }
        if s.size ≥ 4096 || s.fd = 2 then flushSink s else pure s
    let key := (isCommand, path)
    modify fun w => { w with outputs := (key, s) :: w.outputs.filter (·.1 != key) }

def drain (s : Sink) : Act (Option FileFault) := do
  if s.fd = 1 then
    job Job.flush
    match (← job get).lost with
    | some fault =>
      job (modify fun d => { d with lost := none })
      return some fault
    | none => return if ← ask (.isOpen 1) then none else some .badDescriptor
  else if s.waiting.isEmpty then return none
  else
    match ← ask (.write s.fd (String.join s.waiting.reverse)) with
    | .ok () => return none
    | .error fault => return if s.fd = 2 || s.pid.isSome then none else some fault

def closeSink (path : String) (s : Sink) : Act Nat := do
  if let some fault ← drain s then
    let name := (← job get).name
    let text := "close failed on file \"" ++ path ++ "\" (" ++ fault.text ++ ")\n"
    let _ ← ask (.write 2 (name ++ ": " ++ text))
    modify fun w => { w with status := 2 }
  if s.fd > 2 then
    let _ ← ask (.close s.fd)
  match s.pid with
  | some pid => await pid
  | none => return 0

def closeStream (s : Stream) : Act Nat := do
  if s.fd ≠ 0 then
    let _ ← ask (.close s.fd)
  match s.pid with
  | some pid => await pid
  | none => return 0

def closeNamed (path : String) : Act Int := do
  let w ← get
  let sinks := w.outputs.filter (·.1.2 == path)
  let streams := w.inputs.filter (·.1.2 == path)
  set { w with
    outputs := w.outputs.filter (·.1.2 != path)
    inputs := w.inputs.filter (·.1.2 != path) }
  let mut result : Int := -1
  for (_, s) in sinks do
    result := ← closeSink path s
  for (_, s) in streams do result := ← closeStream s
  return result

def closeAll : Act Unit := do
  for ((_, path), s) in (← get).outputs do
    let _ ← closeSink path s
  modify fun w => { w with outputs := [] }

def readOn (s : Stream) : Act (Except FileFault Stream) := do
  match ← ask (.read s.fd 4096) with
  | .error f => return .error f
  | .ok piece =>
    if piece.isEmpty then return .ok { s with isOver := true }
    else return .ok { s with rest := s.rest ++ piece }

def rejoined (s : Stream) : Stream :=
  if s.ready.isEmpty then s
  else
    { s with
      ready := []
      rest := String.join (s.ready.map fun (text, mark) => text ++ mark) ++ s.rest }

def takeRecord : Nat → Stream → Act (Except FileFault (Option String × Stream))
  | 0, s => return .ok (none, s)
  | fuel + 1, s => do
    let separator := (← get).recordSeparator
    let fits : Bool :=
      match s.ready, separator with
      | (_, mark) :: _, .one c => mark == c.toString
      | _ :: _, _ => true
      | [], _ => false
    match s.ready, fits with
    | (text, _) :: rest, true => return .ok (some text, { s with ready := rest })
    | _, _ =>
      let s := rejoined s
      let isReady :=
        match separator with
        | .one c => s.rest.contains c
        | _ => false
      if isReady || s.isOver then
        let records := separator.records s.rest
        match separator, s.isOver with
        | .one _, false =>
          let whole := records.filter (·.2 != "")
          let last := (records.filter (·.2 == "")).head?.elim "" (·.1)
          takeRecord fuel { s with ready := whole, rest := last }
        | _, _ =>
          match records with
          | [] => return .ok (none, { s with rest := "" })
          | (text, _) :: more => return .ok (some text, { s with ready := more, rest := "" })
      else
        match ← readOn s with
        | .ok s => takeRecord fuel s
        | .error f => return .error f

def isName (s : String) : Bool :=
  s.toList.head?.any (fun c => c.isAlpha || c = '_') && s.all fun c => c.isAlphanum || c = '_'

def assignment? (text : String) : Option (String × String) :=
  match text.splitOn "=" with
  | name :: rest => if isName name && !rest.isEmpty then some (name, "=".intercalate rest) else none
  | [] => none

def assignArgument (name text : String) : Act Unit := do
  let w ← get
  match w.program.names.idxOf? name with
  | some i =>
    if !(w.program.arrays.getD i false) then setOverall i (.input (Scan.plain text))
  | none => pure ()

def argumentAt (i : Nat) : Act String := do
  let table := (← get).tables.getD (known "ARGV") .empty
  match table.values[toString i]? with
  | some v => textOf v
  | none => return ""

def openMain : Nat → Act Bool
  | 0 => return false
  | fuel + 1 => do
    let w ← get
    let count := (w.values.getD (known "ARGC") .nothing).toNumber
    if Float.ofNat w.nextArgument ≥ count then
      if w.hadFile then return false
      else
        putValue (known "FILENAME") (.text "-")
        modify fun w => { w with hadFile := true, main := some ⟨0, [], "", false, none⟩ }
        return true
    else
      let text ← argumentAt w.nextArgument
      modify fun w => { w with nextArgument := w.nextArgument + 1 }
      if text.isEmpty then openMain fuel
      else
        match assignment? text with
        | some (name, value) =>
          assignArgument name value
          openMain fuel
        | none =>
          putValue (known "FILENAME") (.text text)
          putValue (known "FNR") (.number 0)
          if text == "-" || text == "/dev/stdin" then
            modify fun w => { w with hadFile := true, main := some ⟨0, [], "", false, none⟩ }
            return true
          else
            match ← ask (.openFile text .toRead 0) with
            | .ok fd =>
              modify fun w => { w with hadFile := true, main := some ⟨fd, [], "", false, none⟩ }
              return true
            | .error f => crash ("cannot open \"" ++ text ++ "\" (" ++ f.text ++ ")")

def closeMain : Act Unit := do
  if let some s := (← get).main then
    let _ ← closeStream s
    modify fun w => { w with main := none }

def nextRecord : Nat → Act (Option String)
  | 0 => return none
  | fuel + 1 => do
    let w ← get
    if w.isDone then return none
    else
      match w.main with
      | none =>
        if ← openMain maxRounds then nextRecord fuel
        else
          modify fun w => { w with isDone := true }
          return none
      | some s =>
        match ← takeRecord maxRounds s with
        | .error f => crash ("read error (" ++ f.text ++ ")")
        | .ok (none, _) =>
          closeMain
          nextRecord fuel
        | .ok (some text, s) =>
          modify fun w => { w with main := some s }
          let count (name : String) : Act Unit := do
            let v ← valueAt (known name)
            putValue (known name) (.number (v.toNumber + 1))
          count "NR"
          count "FNR"
          return some text

def recordFrom (isCommand : Bool) (path : String) : Act (Except Unit (Option String)) := do
  let key := (isCommand, path)
  let opened : Option Stream ←
    match (← get).inputs.lookup key with
    | some s => pure (some s)
    | none =>
      if isCommand then
        let (out, into) ← ask .pipe
        let pid ← start "/bin/sh" path do
          let _ ← Job.ask (.duplicate into 1)
          let _ ← Job.ask (.close into)
          let _ ← Job.ask (.close out)
        let _ ← ask (.close into)
        pure (some ⟨out, [], "", false, some pid⟩)
      else if path == "-" || path == "/dev/stdin" then
        pure (some ⟨0, [], "", false, none⟩)
      else
        match ← ask (.openFile path .toRead 0) with
        | .ok fd => pure (some ⟨fd, [], "", false, none⟩)
        | .error _ => pure none
  match opened with
  | none => return .error ()
  | some s =>
    match ← takeRecord maxRounds s with
    | .error f => crash ("read error (" ++ f.text ++ ")")
    | .ok (text, s) =>
      modify fun w => { w with inputs := (key, s) :: w.inputs.filter (·.1 != key) }
      return .ok text

end Act

end ServerKeeper.Tool.Records
