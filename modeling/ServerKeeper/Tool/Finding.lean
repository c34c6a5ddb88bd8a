import ServerKeeper.Tool.Finding.Place
import ServerKeeper.Tool.Finding.Reading
import ServerKeeper.Tool.Starting

namespace ServerKeeper.Tool.Finding

open Job Host

/-- Files that a command is still to be run for, in one directory if the command runs there. -/
structure Batch where
  command : Command
  directory : String
  files : List String

structure State where
  batches : List Batch
  isPruned : Bool
  isOver : Bool

abbrev Search := StateT State Job

namespace Search

def job {α : Type} (a : Job α) : Search α := StateT.lift a

def complain (text : String) : Search Unit := job (Job.complain text)

def complainAbout (path : String) (fault : FileFault) : Search Unit :=
  complain (ShownPath.literal path ++ ": " ++ fault.text)

def emit (out : Outlet) (text : String) : Search Unit := do
  match out with
  | none => job (print text)
  | some fd =>
    let _ ← job (ask (.write fd text))

def launch (words : List String) (directory : Option String) (hasInput : Bool) : Search Ending := do
  let environment := (← job get).environment
  let name := (← job get).name
  let pid ← job (fork do
    if let some d := directory then
      let _ ← ask (.changeDirectory d)
    if !hasInput then
      match ← ask (.openFile "/dev/null" .toRead 0) with
      | .ok fd =>
        let _ ← ask (.duplicate fd 0)
        let _ ← ask (.close fd)
      | .error _ => pure ()
    let fault ← become words environment
    tell (name ++ ": " ++ ShownPath.literal (words.headD "") ++ ": " ++ fault.text ++ "\n")
    throw 1)
  let how ← job (awaitEnd pid maxRounds)
  match how with
  | .killed n =>
    let text := ShownPath.literal (words.headD "") ++ " terminated by signal " ++ toString n ++ "\n"
    job (tell (name ++ ": " ++ text))
  | .exited _ => pure ()
  return how

def runBatch (b : Batch) : Search Unit := do
  if !b.files.isEmpty then
    let directory := if b.command.isInside then some b.directory else none
    match ← launch (b.command.words ++ b.files.reverse) directory true with
    | .exited 0 => pure ()
    | _ => job (setStatus 1)

def runBatches (isWanted : Batch → Bool) : Search Unit := do
  let waiting := (← get).batches.filter isWanted
  modify fun s => { s with batches := s.batches.filter fun b => !isWanted b }
  for b in waiting do runBatch b

def insidePath (p : Place) : String × String :=
  let path := trimmed p.path
  if path == "/" then ("/", "/") else (
    (let d := directoryOf path; if d.isEmpty then "/" else d), "./" ++ lastPart path)

def filled (word file : String) : String := file.intercalate (word.splitOn "\x7b\x7d")

def runCommand (c : Command) (p : Place) : Search Bool := do
  let (directory, file) := if c.isInside then insidePath p else (".", p.path)
  if c.isShared then
    if c.isInside then runBatches fun b => b.command.isInside && b.directory != directory
    let add (bs : List Batch) : List Batch :=
      if bs.any (·.command.index = c.index) then
        bs.map fun b =>
          if b.command.index = c.index then { b with files := file :: b.files } else b
      else bs ++ [⟨c, directory, [file]⟩]
    modify fun s => { s with batches := add s.batches }
    return true
  else
    let words := c.words.map fun w => filled w file
    let agreed ←
      if c.asks then do
        job (confirm ("< " ++ c.words.headD "" ++ " ... " ++ p.path ++ " > ? "))
      else pure true
    if agreed then
      let how ← launch words (if c.isInside then some directory else none) (!c.asks)
      return match how with
        | .exited 0 => true
        | _ => false
    else return false

/-- The letter of what a file stands for otherwise: of what a link points to if links are not
followed, of the link if they are. -/
def otherKind (follows : Bool) (p : Place) : Search Char := do
  match ← job (ask (.status p.path (!follows))) with
  | .ok s => return kindOf s
  | .error .tooManyLinks => return 'L'
  | .error .notFound | .error .notADirectory => return 'N'
  | .error _ => return '?'

def folded (ignoresCase : Bool) (text : String) : String :=
  if ignoresCase then text.toLower else text

def fits (pattern text : String) (ignoresCase : Bool) : Bool :=
  Shell.Pattern.matchesText (folded ignoresCase pattern) (folded ignoresCase text)

def ageOf (now : Moment) (m : Moment) : Int := now - m

def second : Int := 1000000000

def isAged (unit : Int) (countsUp : Bool) (b : Bound) (age : Int) : Bool :=
  match b with
  | .exactly n =>
    if countsUp then n * second - unit * second < age && age ≤ n * second
    else n * second ≤ age && age < (n + unit) * second
  | .above n => if countsUp then age > n * second else age ≥ (n + unit) * second
  | .below n => age < n * second

def passes (q : Quest) (follows : Bool) (p : Place) (t : Test) : Search Bool := do
  let s := p.status
  match t with
  | .always => return true
  | .never => return false
  | .name pattern ignoresCase => return fits pattern (lastPart p.path) ignoresCase
  | .path pattern ignoresCase => return fits pattern p.path ignoresCase
  | .target pattern ignoresCase =>
    match s.content with
    | .link target => return fits pattern target ignoresCase
    | _ => return false
  | .regex r => return r.isFoundIn p.path
  | .kind letters isOther =>
    if isOther then
      let c ← otherKind follows p
      let c := if c = 'N' || c = 'L' then 'l' else c
      return letters.contains c
    else return letters.contains (kindOf s)
  | .empty =>
    match s.content with
    | .file bytes => return bytes.size = 0
    | .directory .. =>
      match ← job (ask (.list p.path)) with
      | .ok names => return names.isEmpty
      | .error fault =>
        complainAbout p.path fault
        return false
    | _ => return false
  | .size unit b => return b.admits ((s.content.size + unit - 1) / unit : Nat)
  | .mode fit mode directoryMode =>
    let wanted := if s.content.isDirectory then directoryMode else mode
    return match fit with
      | .same => s.mode = wanted
      | .all => s.mode &&& wanted = wanted
      | .some => s.mode &&& wanted ≠ 0
  | .owner b => return b.admits s.owner
  | .group b => return b.admits s.group
  | .ownerless => return (User.numbered? s.owner).isNone
  | .groupless => return (Group.name? s.group).isNone
  | .newer t m => return t.of s > m
  | .days t b => return isAged 86400 false b (ageOf q.now (t.of s))
  | .minutes t b => return isAged 60 true b (ageOf q.now (t.of s))
  | .used b => return isAged 86400 false b (s.accessed - s.changed)
  | .links b => return b.admits s.links
  | .number b => return b.admits s.number
  | .executable =>
    match ← job (ask (.status p.path true)) with
    | .ok s => return s.content.isDirectory || s.mode &&& 0o111 ≠ 0
    | .error _ => return false

def act (q : Quest) (follows : Bool) (p : Place) (a : Action) : Search Bool := do
  match a with
  | .print out mark =>
    emit out (p.path ++ mark)
    return true
  | .printf out format =>
    let other ← if (format.splitOn "%Y").length > 1 then otherKind false p else pure ' '
    emit out (formatted p other (format.length + 1) format.toList)
    return true
  | .list out =>
    emit out (line q.now p)
    return true
  | .run c => runCommand c p
  | .delete =>
    if p.path == "." then return true
    else
      let r ←
        if p.status.content.isDirectory && !follows then job (ask (.removeDirectory p.path))
        else
          match ← job (ask (.status p.path false)) with
          | .ok s =>
            if s.content.isDirectory then job (ask (.removeDirectory p.path))
            else job (ask (.removeName p.path))
          | .error fault => pure (.error fault)
      match r with
      | .ok () => return true
      | .error fault =>
        complain ("cannot delete " ++ ShownPath.literal p.path ++ ": " ++ fault.text)
        return false
  | .prune =>
    modify fun s => { s with isPruned := true }
    return true
  | .quit =>
    modify fun s => { s with isOver := true }
    return true

def evaluate (q : Quest) (follows : Bool) (p : Place) : Criterion → Search Bool
  | .test t => passes q follows p t
  | .action a => act q follows p a
  | .negation c => do return !(← evaluate q follows p c)
  | .both a b => do
    let x ← evaluate q follows p a
    if x && !(← get).isOver then evaluate q follows p b else return false
  | .either a b => do
    let x ← evaluate q follows p a
    if x || (← get).isOver then return true else evaluate q follows p b
  | .sequence a b => do
    let _ ← evaluate q follows p a
    if (← get).isOver then return true else evaluate q follows p b

abbrev Way := List (Nat × String)

def visitOne (q : Quest) (follows : Bool) (p : Place) : Search Unit := do
  if p.depth ≥ q.least then
    let _ ← evaluate q follows p q.criterion

def look (follows : Bool) (path : String) : Search (Except FileFault FileStatus) := do
  if follows then
    match ← job (ask (.status path true)) with
    | .ok s => return .ok s
    | .error .notFound => job (ask (.status path false))
    | .error fault => return .error fault
  else job (ask (.status path false))

mutual

def visit (q : Quest) : Nat → String → String → Nat → Way → Search Unit
  | 0, _, _, _, _ => pure ()
  | fuel + 1, start, path, depth, way => do
    if !(← get).isOver then
      let _ ← job (ask .self)
      let follows := q.following = .always || q.following = .atStart && depth = 0
      match ← look follows path with
      | .error fault => complainAbout path fault
      | .ok status =>
        let p : Place := ⟨path, start, depth, status⟩
        if !status.content.isDirectory then visitOne q follows p
        else
          match if follows then way.find? (·.1 = status.number) else none with
          | some (_, above) =>
            complain ("File system loop detected; " ++ ShownPath.literal path ++
              " is part of the same file system loop as " ++ ShownPath.literal above ++ ".")
          | none =>
            modify fun s => { s with isPruned := false }
            if !q.isDeepFirst then visitOne q follows p
            let s ← get
            let isBelowWanted := q.most.all (depth < ·)
            if !s.isOver && isBelowWanted && (q.isDeepFirst || !s.isPruned) then
              match ← job (ask (.list path)) with
              | .error fault => complainAbout path fault
              | .ok names =>
                visitAll q fuel start path (depth + 1) ((status.number, path) :: way) names
            if q.isDeepFirst && !(← get).isOver then visitOne q follows p

def visitAll (q : Quest) : Nat → String → String → Nat → Way → List String → Search Unit
  | 0, _, _, _, _, _ => pure ()
  | fuel + 1, start, path, depth, way, names => do
    match names with
    | [] => pure ()
    | name :: rest =>
      let inner := if path.endsWith "/" then path ++ name else path ++ "/" ++ name
      visit q fuel start inner depth way
      visitAll q fuel start path depth way rest

end

def whole (q : Quest) : Search Unit := do
  for start in q.starts do
    visit q maxRounds start start 0 []
  runBatches fun _ => true

end Search

def find : Utility where
  name := "find"
  title := "find (GNU findutils) 4.9.0"
  operands := "[-H] [-L] [-P] [-Olevel] [-D debugopts] [path...] [expression]"
  work arguments := do
    let q ← Reader.quest arguments
    let ((), _) ← StateT.run (Search.whole q) ⟨[], false, false⟩

end ServerKeeper.Tool.Finding
