import ServerKeeper.Shell.Expansion

namespace ServerKeeper.Shell

open Host

inductive Connection
  | file (fd : Nat) (use : FileUse) (path : String)
  | copy (fd source : Nat)
  | close (fd : Nat)
  | document (fd : Nat) (text : String)

namespace Connection

def fd : Connection → Nat
  | file fd .. | copy fd _ | close fd | document fd _ => fd

end Connection

abbrev Kept := Nat × Option Nat

namespace Action

def openingText (creates : Bool) : FileFault → String
  | .notFound | .notADirectory => if creates then "Directory nonexistent" else "No such file"
  | fault => fault.text

def openFor (use : FileUse) (path : String) : Action Nat := do
  let attempt (how : Opening) : Action Nat := do
    match ← ask (.openFile path how 0o666) with
    | .ok fd => return fd
    | .error fault =>
      let action := if how.creates then "create " else "open "
      fail ("cannot " ++ action ++ path ++ ": " ++ openingText how.creates fault)
  match use with
  | .read => attempt .toRead
  | .overwrite => attempt .toWrite
  | .append => attempt .toAppend
  | .both => attempt ⟨true, true, false, true, false, false⟩
  | .write =>
    if (← get).isOn "noclobber" then
      match ← ask (.status path true) with
      | .error _ => attempt ⟨false, true, false, true, true, false⟩
      | .ok status =>
        if status.content.isFile then
          fail ("cannot create " ++ path ++ ": " ++ FileFault.alreadyExists.text)
        else attempt ⟨false, true, false, false, false, false⟩
    else attempt .toWrite

def openText (text : String) : Action Nat := do
  let (reader, writer) ← ask .pipe
  if text.length ≤ 4096 then
    let _ ← write writer text
  else
    let _ ← fork do
      becomeChild .help false
      let _ ← ask (.close reader)
      let _ ← write writer text
      return 0
  let _ ← ask (.close writer)
  return reader

def keepDescriptor (kept : List Kept) (fd : Nat) : Action (List Kept) := do
  if kept.any (·.1 = fd) then return kept
  else return (fd, ← ask (.save fd 10)) :: kept

def connect (c : Connection) : Action Unit := do
  match c with
  | .file fd use path => moveTo (← openFor use path) fd
  | .document fd text => moveTo (← openText text) fd
  | .close fd =>
    let _ ← ask (.close fd)
  | .copy fd source =>
    if fd ≠ source then
      if !(← ask (.duplicate source fd)) then
        fail (toString source ++ ": " ++ FileFault.badDescriptor.text)

def giveBack : List Kept → Action Unit
  | [] => pure ()
  | (fd, place) :: rest => do
    match place with
    | some place => moveTo place fd
    | none =>
      let _ ← ask (.close fd)
    giveBack rest

def letGo : List Kept → Action Unit
  | [] => pure ()
  | (_, place) :: rest => do
    match place with
    | some place =>
      let _ ← ask (.close place)
    | none => pure ()
    letGo rest

/-- Carries out redirections up to one that fails; gives what was kept, and whether all went
well. A file is opened before the descriptor it takes over is kept. -/
def connectAll : List Kept → List Connection → Action (List Kept × Bool)
  | kept, [] => return (kept, true)
  | kept, c :: rest => do
    let fd := c.fd
    let opened ← attempt (match c with
      | .file _ use path => some <$> openFor use path
      | .document _ text => some <$> openText text
      | .copy .. | .close _ => pure none)
    match opened with
    | .error .error => return (kept, false)
    | .error j => throw j
    | .ok (some opened) =>
      if opened = fd then connectAll (if kept.any (·.1 = fd) then kept else (fd, none) :: kept) rest
      else
        let kept ← keepDescriptor kept fd
        moveTo opened fd
        connectAll kept rest
    | .ok none =>
      let isItself : Bool :=
        match c with
        | .copy fd source => fd == source
        | _ => false
      let kept ← if isItself then pure kept else keepDescriptor kept fd
      match ← attempt (connect c) with
      | .error .error => return (kept, false)
      | .error j => throw j
      | .ok () => connectAll kept rest

section

variable (evaluate : Evaluator)

def connection (r : Redirect) : Action Connection := do
  match r with
  | .file fd use w => return .file fd use (← expandText evaluate .ofText w)
  | .copy fd w =>
    match (← expandText evaluate .ofText w).toList with
    | ['-'] => return .close fd
    | [c] =>
      if c.isDigit then return .copy fd (c.toNat - 48) else fail "Syntax error: Bad fd number"
    | _ => fail "Syntax error: Bad fd number"
  | .document fd number =>
    let s ← get
    let ps ← pieces evaluate maxReading .ofText false (s.documents.getD number [])
    return .document fd (joinedText ps)

def connections : List Redirect → Action (List Connection)
  | [] => return []
  | r :: rs => do
    let c ← connection evaluate r
    return c :: (← connections rs)

/-- Carries out an action between redirections and their end. Where they fail, the status is 2. -/
def redirected (rs : List Redirect) (a : Action Unit) : Action Unit := do
  let cs ← connections evaluate rs
  let (kept, isWell) ← connectAll [] cs
  before (if isWell then a else setStatus 2) (giveBack kept)

def redirect (rs : List Redirect) : Action Unit := do
  for c in ← connections evaluate rs do connect c

end

end Action

end ServerKeeper.Shell
