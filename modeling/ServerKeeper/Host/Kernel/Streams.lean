import ServerKeeper.Host.Kernel
import ServerKeeper.Text.Lossy

namespace ServerKeeper.Host.Kernel

def opened (object : Object) (how : Opening) : OpenFile :=
  ⟨object, 0, how.reads, how.writes, how.appends, 0⟩

def isMet (k : Kernel) (name : PipeName) (f : OpenFile) : Bool :=
  let p := (k.pipes.lookup name).getD default
  (!f.reads || p.writers > 0) && (!f.writes || p.readers > 0)

def openNode (pid n : Nat) (how : Opening) : Act (Option (Except FileFault Nat)) := do
  let k ← get
  match k.disk.content n with
  | .directory .. =>
    if how.writes then return some (.error .isADirectory)
    else return some (.ok (← install pid (opened (.node n) how)))
  | .device .terminal => return some (.error .noDevice)
  | .queue =>
    let fd ← install pid (opened (.pipe (.behind n)) how)
    changeTask pid fun t => { t with progress := .opening fd }
    return none
  | _ =>
    if how.empties && (k.disk.content n).isFile then
      modify fun k => { k with disk := k.disk.setBytes k.clock n .empty }
    return some (.ok (← install pid (opened (.node n) how)))

def reopen (pid : Nat) (f : OpenFile) (how : Opening) : Act (Option (Except FileFault Nat)) := do
  match f.object with
  | .node n => openNode pid n how
  | object => return some (.ok (← install pid (opened object how)))

def openPath (pid : Nat) (path : String) (how : Opening) (mode : Nat) :
    Act (Option (Except FileFault Nat)) := do
  let k ← get
  let t := k.task pid
  match k.disk.place t.directory (!how.onlyNew) path with
  | .error fault => return some (.error fault)
  | .ok p =>
    match p.node? with
    | some n =>
      if how.onlyNew then return some (.error .alreadyExists)
      else if p.slash && !(k.disk.content n).isDirectory then return some (.error .notADirectory)
      else
        match k.disk.content n with
        | .descriptor fd =>
          match k.fileOf pid fd with
          | some (_, f) => reopen pid f how
          | none => return some (.error .notFound)
        | _ => openNode pid n how
    | none =>
      if !how.creates then return some (.error .notFound)
      else if p.slash then return some (.error .isADirectory)
      else
        let mode := mode &&& (0o7777 ^^^ t.mask)
        let (disk, n) := k.disk.add k.clock p.directory p.name (.file .empty) mode
        set { k with disk }
        return some (.ok (← install pid (opened (.node n) how)))

def openFile (pid : Nat) (path : String) (how : Opening) (mode : Nat) :
    Act (Option (Except FileFault Nat)) := do
  let k ← get
  match (k.task pid).progress with
  | .opening fd =>
    match k.fileOf pid fd with
    | some (_, f) =>
      match f.object with
      | .pipe name =>
        if k.isMet name f then
          changeTask pid fun t => { t with progress := .none }
          return some (.ok fd)
        else return none
      | _ => return some (.ok fd)
    | none => return some (.error .badDescriptor)
  | _ =>
    let answer ← openPath pid path how mode
    if answer.isNone then
      let k ← get
      match (k.task pid).progress with
      | .opening fd =>
        match k.fileOf pid fd with
        | some (_, f) =>
          match f.object with
          | .pipe name =>
            if k.isMet name f then
              changeTask pid fun t => { t with progress := .none }
              return some (.ok fd)
          | _ => pure ()
        | none => pure ()
      | _ => pure ()
    return answer

def setOffset (number offset : Nat) : Act Unit :=
  modify fun k => { k with files := k.files.change number fun f => { f with offset } }

/-- How many bytes a reader takes of those that are there: up to a count, or up to a line feed. -/
inductive Portion
  | upTo (count : Nat)
  | line

def lineStop (bytes : ByteArray) : Nat → Nat → Nat
  | 0, i => i
  | fuel + 1, i =>
    if i < bytes.size then if bytes.get! i = 10 then i + 1 else lineStop bytes fuel (i + 1) else i

def Portion.stop (p : Portion) (bytes : ByteArray) (start : Nat) : Nat :=
  match p with
  | .upTo count => min (start + count) bytes.size
  | .line => lineStop bytes (bytes.size - start) start

def readPipe (name : PipeName) (portion : Portion) : Act (Option String) := do
  let p := ((← get).pipes.lookup name).getD default
  if p.size = 0 then return if p.writers = 0 then some "" else none
  else
    let stop := portion.stop p.bytes p.start
    let isWhole :=
      match portion with
      | .upTo _ => true
      | .line => p.bytes.get! (stop - 1) = 10 || p.writers = 0 || p.size ≥ Pipe.capacity
    if isWhole then
      let (bytes, p) := p.take (stop - p.start)
      changePipe name fun _ => p
      return some (Text.ofBytes bytes)
    else return none

def zeros (count : Nat) : String := String.ofList (List.replicate count '\x00')

def read (pid fd : Nat) (portion : Portion) : Act (Option (Except FileFault String)) := do
  let k ← get
  match k.fileOf pid fd with
  | none => return some (.error .badDescriptor)
  | some (number, f) =>
    if !f.reads then return some (.error .badDescriptor)
    else
      match f.object with
      | .collector _ => return some (.error .badDescriptor)
      | .pipe name => return (← readPipe name portion).map .ok
      | .node n =>
        match k.disk.content n with
        | .file bytes =>
          if bytes.size ≤ f.offset then return some (.ok "")
          else
            let stop := portion.stop bytes f.offset
            setOffset number stop
            return some (.ok (Text.ofBytes (bytes.extract f.offset stop)))
        | .directory .. => return some (.error .isADirectory)
        | .device .null => return some (.ok "")
        | _ =>
          match portion with
          | .upTo count => return some (.ok (zeros count))
          | .line => return some (.ok (zeros 4096))

def doubled : Nat → Nat → ByteArray → ByteArray
  | 0, count, bytes => bytes.extract 0 count
  | fuel + 1, count, bytes =>
    if count ≤ bytes.size then bytes.extract 0 count else doubled fuel count (bytes ++ bytes)

def zeroBytes (count : Nat) : ByteArray := doubled 64 count ⟨#[0]⟩

def written (bytes : ByteArray) (offset : Nat) (text : String) : ByteArray :=
  if bytes.size = offset then Text.appendBytes bytes text
  else
    let before :=
      if bytes.size < offset then bytes ++ zeroBytes (offset - bytes.size)
      else bytes.extract 0 offset
    let whole := Text.appendBytes before text
    whole ++ bytes.extract whole.size bytes.size

def writeNowhere (pid : Nat) : Act (Option (Except FileFault Unit)) := do
  match ((← get).task pid).reaction Signal.brokenPipe with
  | .usual =>
    changeTask pid fun t => { t with ended := some (.killed Signal.brokenPipe) }
    return none
  | .ignore => return some (.error .brokenPipe)
  | .notice =>
    changeTask pid fun t => { t with pending := t.pending ++ [Signal.brokenPipe] }
    return some (.error .brokenPipe)

def isHeard (k : Kernel) (pid fd : Nat) : Bool :=
  match k.fileOf pid fd with
  | some (_, { object := .pipe name, .. }) => ((k.pipes.lookup name).getD default).readers ≠ 0
  | _ => true

def writePipe (pid : Nat) (name : PipeName) (text : String) :
    Act (Option (Except FileFault Unit)) := do
  let p := ((← get).pipes.lookup name).getD default
  if p.readers = 0 then writeNowhere pid
  else
    let room := Pipe.capacity - p.size
    if text.length ≤ room then
      changePipe name fun p => { p with bytes := Text.appendBytes p.bytes text }
      changeTask pid fun t => { t with progress := .none }
      return some (.ok ())
    else
      if room > 0 then
        changePipe name fun p =>
          { p with bytes := Text.appendBytes p.bytes (text.take room).toString }
        changeTask pid fun t => { t with progress := .unwritten (text.drop room).toString }
      else changeTask pid fun t => { t with progress := .unwritten text }
      return none

def write (pid fd : Nat) (text : String) : Act (Option (Except FileFault Unit)) := do
  let k ← get
  match k.fileOf pid fd with
  | none => return some (.error .badDescriptor)
  | some (number, f) =>
    if !f.writes then return some (.error .badDescriptor)
    else
      match f.object with
      | .collector i =>
        modify fun k =>
          let bytes := (k.collected.lookup i).getD .empty
          { k with collected := k.collected.put i (Text.appendBytes bytes text) }
        return some (.ok ())
      | .pipe name =>
        match (k.task pid).progress with
        | .unwritten rest => writePipe pid name rest
        | _ => writePipe pid name text
      | .node n =>
        match k.disk.content n with
        | .file bytes =>
          let offset := if f.appends then bytes.size else f.offset
          if text.isEmpty then return some (.ok ())
          else
            modify fun k =>
              { k with disk := k.disk.setBytes k.clock n (written bytes offset text) }
            setOffset number (offset + text.length)
            return some (.ok ())
        | .device .full => return some (.error .noSpace)
        | .directory .. => return some (.error .isADirectory)
        | _ => return some (.ok ())

def seek (pid fd : Nat) (offset : Nat → Nat) : Act (Except FileFault Unit) := do
  match (← get).fileOf pid fd with
  | none => return .error .badDescriptor
  | some (number, f) =>
    match f.object with
    | .node _ =>
      setOffset number (offset f.offset)
      return .ok ()
    | _ => return .error .illegalSeek

def truncate (pid fd size : Nat) : Act (Except FileFault Unit) := do
  let k ← get
  match k.fileOf pid fd with
  | none => return .error .badDescriptor
  | some (_, f) =>
    match f.object with
    | .node n =>
      match k.disk.content n with
      | .file bytes =>
        let cut := if size ≤ bytes.size then bytes.extract 0 size else written bytes size ""
        set { k with disk := k.disk.setBytes k.clock n cut }
        return .ok ()
      | _ => return .error .invalidArgument
    | _ => return .error .invalidArgument

def makePipe (pid : Nat) : Act (Nat × Nat) := do
  let name := PipeName.unnamed (← freshNumber)
  let reader ← install pid ⟨.pipe name, 0, true, false, false, 0⟩
  let writer ← install pid ⟨.pipe name, 0, false, true, false, 0⟩
  return (reader, writer)

def duplicate (pid fd target : Nat) : Act Bool := do
  match ((← get).task pid).find? fd with
  | none => return false
  | some number =>
    if fd = target then return true
    else
      modify fun k =>
        { k with files := k.files.change number fun f => { f with holders := f.holders + 1 } }
      let _ ← close pid target
      changeTask pid fun t => { t with descriptors := ⟨target, number, false⟩ :: t.descriptors }
      return true

/-- Makes a private descriptor, no less than another number, stand for what one stands for. -/
def save (pid fd least : Nat) : Act (Option Nat) := do
  let t := (← get).task pid
  match t.find? fd with
  | none => return none
  | some number =>
    let saved := t.freeFrom least
    share pid saved number true
    return some saved

end ServerKeeper.Host.Kernel
