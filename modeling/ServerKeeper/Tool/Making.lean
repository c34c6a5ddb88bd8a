import ServerKeeper.Tool.Canonical
import ServerKeeper.Tool.DateReading
import ServerKeeper.Tool.Lines
import ServerKeeper.Tool.Permission

namespace ServerKeeper.Tool

open Host

namespace Job

def creationMask : Job Nat := do
  let mask ← ask (.setMask 0)
  let _ ← ask (.setMask mask)
  return mask

def statusOf? (path : String) (followLast : Bool) : Job (Option FileStatus) := do
  match ← ask (.status path followLast) with
  | .ok s => return some s
  | .error _ => return none

def confirm (question : String) : Job Bool := do
  tell question
  match ← ask (.readLine 0) with
  | .ok line => return line.startsWith "y" || line.startsWith "Y"
  | .error _ => return false

end Job

namespace Making

open Job
open ShownPath (quoted literal)

def modeOption (found : List Chosen) (key : String) : Job (Option (List Permission.Change)) := do
  match Chosen.value? found key with
  | none => return none
  | some text =>
    match Permission.read? text with
    | some changes => return some changes
    | none => fail ("invalid mode " ++ literal text)

def ancestors (path : String) : List (String × String) :=
  let cs := path.toList
  let rec go : Nat → List Char → List Char → List (String × String)
    | 0, _, _ => []
    | fuel + 1, done, rest =>
      let slashes := rest.takeWhile (· = '/')
      let after := rest.drop slashes.length
      let name := after.takeWhile (· ≠ '/')
      let more := after.drop name.length
      if (more.dropWhile (· = '/')).isEmpty then []
      else
        let here := done ++ slashes ++ name
        (String.ofList here, String.ofList name) :: go fuel here more
  go (cs.length + 1) [] cs

def makeAncestors (announce : String → Job Unit) :
    List (String × String) → Job (Option (String × FileFault))
  | [] => return none
  | (path, name) :: rest => do
    if name == "." then makeAncestors announce rest
    else
      let made ← if name == ".." then pure (.error .alreadyExists)
        else ask (.makeDirectory path 0o777)
      match made with
      | .ok () =>
        announce path
        makeAncestors announce rest
      | .error fault =>
        match ← ask (.status path true) with
        | .ok s =>
          if s.content.isDirectory then makeAncestors announce rest
          else return some (path, .notADirectory)
        | .error .notFound => return some (path, fault)
        | .error other => return some (path, other)

def makeDirectory (withAncestors : Bool) (changes : Option (List Permission.Change)) (mask : Nat)
    (announce : String → Job Unit) (path : String) : Job Bool := do
  let blameFor (path : String) (fault : FileFault) : Job Bool := do
    complain ("cannot create directory " ++ literal path ++ ": " ++ fault.text)
    return false
  let obstacle ← if withAncestors then makeAncestors announce (ancestors path) else pure none
  match obstacle with
  | some (place, fault) => blameFor place fault
  | none =>
    match ← ask (.makeDirectory path 0o777) with
    | .ok () =>
      announce path
      if let some changes := changes then
        let inherited := ((← statusOf? path true).elim 0 (·.mode)) &&& Disk.groupMark
        let _ ← ask (.setMode path (Permission.applyAll changes true mask (0o777 ||| inherited)))
      return true
    | .error fault =>
      let isThere ←
        if withAncestors && fault ≠ .notFound then
          pure ((← statusOf? path true).any (·.content.isDirectory))
        else pure false
      if isThere then return true else blameFor path fault

def mkdir : Utility where
  name := "mkdir"
  operands := "[OPTION]... DIRECTORY..."
  work arguments := do
    let t := OptionTable.ofTexts "m:pvZ"
      ["mode= m", "parents p", "verbose v", "context? Z"] true 1
    let (found, paths) ← t.parse arguments
    if paths.isEmpty then misuse "missing operand"
    let changes ← modeOption found "m"
    let mask ← creationMask
    let name := (← get).name
    let announce (path : String) : Job Unit := do
      if Chosen.has found "v" then
        print (name ++ ": created directory " ++ literal path ++ "\n")
    for path in paths do
      let _ ← makeDirectory (Chosen.has found "p") changes mask announce path

def isNotEmpty (fault : FileFault) : Bool := fault = .notEmpty

/-- Removes the directories above a path, from the last one on, as long as they are empty. -/
def removeAncestors (verbose lenient : Bool) : List String → Job Unit
  | [] => pure ()
  | path :: rest => do
    if verbose then
      print ((← get).name ++ ": removing directory, " ++ quoted path ++ "\n")
    match ← ask (.removeDirectory path) with
    | .ok () => removeAncestors verbose lenient rest
    | .error fault =>
      unless lenient && isNotEmpty fault do blame "failed to remove directory" path fault

def rmdir : Utility where
  name := "rmdir"
  operands := "[OPTION]... DIRECTORY..."
  work arguments := do
    let t := OptionTable.ofTexts "pv"
      ["ignore-fail-on-non-empty ignore", "path p", "parents p", "verbose v"] true 1
    let (found, paths) ← t.parse arguments
    if paths.isEmpty then misuse "missing operand"
    let verbose := Chosen.has found "v"
    let lenient := Chosen.has found "ignore"
    for path in paths do
      if verbose then print ((← get).name ++ ": removing directory, " ++ quoted path ++ "\n")
      match ← ask (.removeDirectory path) with
      | .ok () =>
        if Chosen.has found "p" then
          removeAncestors verbose lenient ((ancestors path).map (·.1)).reverse
      | .error fault =>
        unless lenient && isNotEmpty fault do
          let isLinkWithSlash ←
            if path.endsWith "/" && fault = .notADirectory then
              let bare := (path.dropEndWhile (· == '/')).toString
              pure ((← statusOf? bare false).any (·.content.isLink) &&
                (← statusOf? path true).any (·.content.isDirectory))
            else pure false
          if isLinkWithSlash then
            complain ("failed to remove " ++ quoted path ++ ": Symbolic link not followed")
          else blame "failed to remove" path fault

inductive Asking
  | never
  | once
  | always
  deriving DecidableEq

structure Removal where
  recursive : Bool
  directories : Bool
  forgives : Bool
  asking : Asking
  verbose : Bool
  keepsRoot : Bool

def kindText (s : FileStatus) : String :=
  match s.content with
  | .file bytes => if bytes.size = 0 then "regular empty file" else "regular file"
  | .directory .. => "directory"
  | .link _ => "symbolic link"
  | .queue => "fifo"
  | .device _ | .descriptor _ => "character special file"

def isMissing (fault : FileFault) : Bool := fault = .notFound || fault = .notADirectory

def agrees (r : Removal) (question path : String) : Job Bool := do
  if r.asking ≠ .always then return true
  else confirm ((← get).name ++ ": " ++ question ++ " " ++ quoted path ++ "? ")

def told (r : Removal) (what path : String) (ended : Except FileFault Unit) : Job Bool := do
  match ended with
  | .ok () =>
    if r.verbose then print (what ++ quoted path ++ "\n")
    return true
  | .error fault =>
    if r.forgives && isMissing fault then return true
    else
      blame "cannot remove" path fault
      return false

def removeName (r : Removal) (path : String) : Job Bool := do
  told r "removed " path (← ask (.removeName path))

mutual

def removeAt (r : Removal) : Nat → String → Job Bool
  | 0, _ => return false
  | fuel + 1, path => do
    match ← ask (.status path false) with
    | .error _ => removeName r path
    | .ok s =>
      if s.content.isDirectory then
        let names ←
          match ← ask (.list path) with
          | .ok names => pure names
          | .error _ => pure []
        if !r.recursive && !(r.directories && names.isEmpty) then
          blame "cannot remove" path (if r.directories then .notEmpty else .isADirectory)
          return false
        else
          let goesOn ← if names.isEmpty then pure true else agrees r "descend into directory" path
          if !goesOn then return false
          else
            let gone ← removeNames r fuel path names
            if !gone then return false
            else if ← agrees r "remove directory" path then
              told r "removed directory " path (← ask (.removeDirectory path))
            else return false
      else if ← agrees r ("remove " ++ kindText s) path then removeName r path
      else return false

def removeNames (r : Removal) : Nat → String → List String → Job Bool
  | 0, _, _ => return false
  | _, _, [] => return true
  | fuel + 1, above, name :: rest => do
    let path := if above.endsWith "/" then above ++ name else above ++ "/" ++ name
    let gone ← removeAt r fuel path
    return (← removeNames r fuel above rest) && gone

end

def lastName (path : String) : String := ((path.splitOn "/").filter (· ≠ "")).getLast?.getD ""

namespace Removal

def add (r : Removal) (key : String) (value : Option String) : Job Removal := do
  match key with
  | "f" => return { r with asking := .never, forgives := true }
  | "i" => return { r with asking := .always, forgives := false }
  | "I" => return { r with asking := .once, forgives := false }
  | "interactive" =>
    let choices := [("never", Asking.never), ("no", .never), ("none", .never), ("once", .once),
      ("always", .always), ("yes", .always)]
    let asking ←
      match value with
      | none => pure .always
      | some text => choice (hint 1) "--interactive" choices text
    return { r with asking, forgives := r.forgives && asking = .never }
  | "r" | "R" => return { r with recursive := true }
  | "d" => return { r with directories := true }
  | "v" => return { r with verbose := true }
  | "no" => return { r with keepsRoot := false }
  | "yes" =>
    if let some text := value then
      if text != "all" then fail ("unrecognized --preserve-root argument: " ++ quoted text)
    return { r with keepsRoot := true }
  | _ => return r

end Removal

def rm : Utility where
  name := "rm"
  work arguments := do
    let t := OptionTable.ofTexts "dfirvIR"
      ["force f", "interactive? interactive", "one-file-system one", "no-preserve-root no",
       "preserve-root? yes", "recursive r", "dir d", "verbose v"] true 1
    let (found, paths) ← t.parse arguments
    let mut r : Removal := ⟨false, false, false, .never, false, true⟩
    for (key, value) in found do r ← r.add key value
    if paths.isEmpty then
      if r.forgives then throw 0 else misuse "missing operand"
    let mayGo ←
      if r.asking = .once && (r.recursive || paths.length > 3) then
        let noun := if paths.length = 1 then " argument" else " arguments"
        confirm ((← get).name ++ ": remove " ++ toString paths.length ++ noun ++
          if r.recursive then " recursively? " else "? ")
      else pure true
    if mayGo then
      for path in paths do
        let last := lastName path
        let isDirectory := (← statusOf? path false).any (·.content.isDirectory)
        if r.recursive && isDirectory && (last == "." || last == "..") then
          complain ("refusing to remove '.' or '..' directory: skipping " ++ quoted path)
        else if r.recursive && !path.isEmpty && last.isEmpty && r.keepsRoot then
          complain ("it is dangerous to operate recursively on " ++ quoted path ++
            if path == "/" then "" else " (same as '/')")
          complain "use --no-preserve-root to override this failsafe"
        else
          let _ ← removeAt r maxRounds path

def unlink : Utility where
  name := "unlink"
  operands := "FILE"
  work arguments := do
    let t := OptionTable.ofTexts "" [] true 1
    let (_, paths) ← t.parse arguments
    match paths with
    | [] => misuse "missing operand"
    | _ :: extra :: _ => misuse ("extra operand " ++ literal extra)
    | [path] =>
      match ← ask (.removeName path) with
      | .ok () => pure ()
      | .error fault => blame "cannot unlink" path fault

/-- What paths the recursion of a tool comes to: those below a path in front of the others. -/
def below : Nat → String → Job (List String)
  | 0, _ => return []
  | fuel + 1, path => do
    match ← ask (.status path false) with
    | .error _ => return []
    | .ok s =>
      if !s.content.isDirectory then return []
      else
        match ← ask (.list path) with
        | .error _ => return []
        | .ok names =>
          let mut all := []
          for name in names do
            let inner := if path.endsWith "/" then path ++ name else path ++ "/" ++ name
            all := all ++ [inner] ++ (← below fuel inner)
          return all

structure ModeChange where
  changes : List Permission.Change
  mask : Nat
  isQuiet : Bool
  /-- Whether all changes are told, or only those that make a difference, or none. -/
  tells : Option Bool
  minds : Bool

def chmodOne (m : ModeChange) (isTop : Bool) (path : String) : Job Unit := do
  match ← ask (.status path true) with
  | .error fault =>
    let isDangling := fault = .notFound && (← statusOf? path false).isSome
    if m.isQuiet then setStatus 1
    else if !isTop then pure ()
    else if isDangling then complain ("cannot operate on dangling symlink " ++ quoted path)
    else complain ("cannot access " ++ quoted path ++ ": " ++ fault.text)
  | .ok s =>
    let isLink := (← statusOf? path false).any (·.content.isLink)
    if isTop || !isLink then
      let isDirectory := s.content.isDirectory
      let new := Permission.applyAll m.changes isDirectory m.mask s.mode
      match ← ask (.setMode path new) with
      | .error fault =>
        setStatus 1
        unless m.isQuiet do
          complain ("changing permissions of " ++ quoted path ++ ": " ++ fault.text)
      | .ok () =>
        let shownAs (mode : Nat) : String :=
          Permission.octalText 4 mode ++ " (" ++ Permission.shown mode ++ ")"
        match m.tells with
        | none => pure ()
        | some always =>
          if new ≠ s.mode then
            print ("mode of " ++ quoted path ++ " changed from " ++ shownAs s.mode ++ " to " ++
              shownAs new ++ "\n")
          else if always then
            print ("mode of " ++ quoted path ++ " retained as " ++ shownAs s.mode ++ "\n")
        let expected := Permission.applyAll m.changes isDirectory 0 s.mode
        if m.minds && Permission.without new expected ≠ 0 then
          complain (ShownPath.plain path ++ ": new permissions are " ++ Permission.shown new ++
            ", not " ++ Permission.shown expected)

def isModeArgument (a : String) : Bool :=
  a.startsWith "-" && a.length > 1 && !a.startsWith "--" &&
    ((a.toList.drop 1).head?.any fun c => "rwxXstugoa,+=01234567".contains c)

def chmod : Utility where
  name := "chmod"
  operands := "[OPTION]... MODE[,MODE]... FILE..."
  work arguments := do
    let isMode? := (arguments.takeWhile (· != "--")).find? isModeArgument
    let rest := match isMode? with
      | some a => arguments.erase a
      | none => arguments
    let t := OptionTable.ofTexts "Rcfv"
      ["changes c", "recursive R", "no-preserve-root no", "preserve-root yes", "quiet f",
       "reference= reference", "silent f", "verbose v"] true 1
    let (found, operands) ← t.parse rest
    let (mode?, paths) :=
      match isMode?, Chosen.value? found "reference", operands with
      | some a, _, paths => (some a, paths)
      | none, some _, paths => (none, paths)
      | none, none, a :: paths => (some a, paths)
      | none, none, [] => (none, [])
    if paths.isEmpty then
      match mode? with
      | some mode =>
        if isMode?.isSome then misuse ("missing operand after " ++ literal mode)
        else misuse ("missing operand after " ++ literal mode)
      | none => misuse "missing operand"
    let changes ←
      match mode?, Chosen.value? found "reference" with
      | none, some path =>
        match ← ask (.status path true) with
        | .ok s =>
          pure [⟨'=', .bits, Permission.all, s.mode, Permission.all⟩]
        | .error fault =>
          fail ("failed to get attributes of " ++ quoted path ++ ": " ++ fault.text)
      | mode, _ =>
        match Permission.read? (mode.getD "") with
        | some changes => pure changes
        | none => misuse ("invalid mode: " ++ literal (mode.getD ""))
    let mask ← creationMask
    let tells :=
      match Chosen.last? found ["c", "v"] with
      | some "v" => some true
      | some _ => some false
      | none => none
    let m : ModeChange := ⟨changes, mask, Chosen.has found "f", tells, isMode?.isSome⟩
    for path in paths do
      chmodOne m true path
      if Chosen.has found "R" then
        for inner in ← below maxRounds path do chmodOne m false inner

def stampTime? (now : Moment) (text : String) : Option Moment :=
  let (digits, seconds?) :=
    match text.splitOn "." with
    | [d, s] => (d, some s)
    | _ => (text, none)
  let isDigits (s : String) : Bool := s.all Char.isDigit
  let part (i n : Nat) : Int := (((digits.drop i).take n).toString.toNat?).getD 0
  let n := digits.length
  if !isDigits digits || !seconds?.all (fun s => s.length = 2 && isDigits s) then none
  else if n ≠ 8 && n ≠ 10 && n ≠ 12 then none
  else
    let year : Int :=
      if n = 12 then part 0 4
      else if n = 10 then
        let y := part 0 2
        if y < 69 then 2000 + y else 1900 + y
      else (Calendar.parts now 0 "UTC").date.year
    let i := n - 8
    let month := part i 2
    let day := part (i + 2) 2
    let hour := part (i + 4) 2
    let minute := part (i + 6) 2
    let second : Int := (seconds?.bind (·.toNat?)).getD 0
    if month < 1 || 12 < month || day < 1 || 31 < day || 23 < hour || 59 < minute ||
      60 < second then
      none
    else some ((Calendar.dayNumber year month day * 86400 + hour * 3600 + minute * 60 + second) *
      1000000000)

structure Touching where
  creates : Bool
  followsLast : Bool
  accessed : Option Moment
  modified : Option Moment

def touchOne (m : Touching) (path : String) : Job Unit := do
  let opened ←
    if m.creates && m.followsLast then
      ask (.openFile path ⟨false, true, false, true, false, false⟩ 0o666)
    else pure (.error .isADirectory)
  match opened with
  | .ok fd =>
    let _ ← ask (.close fd)
    let _ ← ask (.setTimes path m.followsLast m.accessed m.modified)
  | .error openFault =>
    match ← ask (.setTimes path m.followsLast m.accessed m.modified) with
    | .ok () => pure ()
    | .error fault =>
      if openFault ≠ .isADirectory then blame "cannot touch" path openFault
      else if !m.creates && fault = .notFound then pure ()
      else blame "setting times of" path fault

def readTime (now : Moment) (text : String) : Job Moment := do
  match DateReading.read? now text with
  | some m => return m
  | none => fail ("invalid date format " ++ literal text)

/-- The times that options ask for: those of a digit stamp, of another file, or of a description. -/
def timesOf (found : List Chosen) (now : Moment) : Job (Moment × Moment) := do
  let description? := Chosen.value? found "d"
  let reference? := Chosen.value? found "r"
  let mut stamp? := none
  for (key, value) in found do
    if key == "t" then
      let text := value.getD ""
      match stampTime? now text with
      | some m => stamp? := some m
      | none => fail ("invalid date format " ++ literal text)
  match stamp?, reference?, description? with
  | some m, none, none => return (m, m)
  | some _, _, _ => misuse "cannot specify times from more than one source"
  | none, some path, _ =>
    match ← ask (.status path (!Chosen.has found "h")) with
    | .error fault => fail ("failed to get attributes of " ++ quoted path ++ ": " ++ fault.text)
    | .ok s =>
      match description? with
      | none => return (s.accessed, s.modified)
      | some text => return (← readTime s.accessed text, ← readTime s.modified text)
  | none, none, some text =>
    let m ← readTime now text
    return (m, m)
  | none, none, none => return (now, now)

def touch : Utility where
  name := "touch"
  operands := "[OPTION]... FILE..."
  work arguments := do
    let t := OptionTable.ofTexts "acd:fhmr:t:"
      ["time= time", "no-create c", "date= d", "reference= r", "no-dereference h"] true 1
    let (found, paths) ← t.parse arguments
    let has := Chosen.has found
    let mut isAccess := has "a"
    let mut isChange := has "m"
    if let some text := Chosen.value? found "time" then
      let choices := [("atime", true), ("access", true), ("use", true), ("mtime", false),
        ("modify", false)]
      if ← choice (hint 1) "--time" choices text then isAccess := true else isChange := true
    let times ← timesOf found (← ask .clock)
    if paths.isEmpty then misuse "missing file operand"
    let m : Touching :=
      { creates := !has "c"
        followsLast := !has "h"
        accessed := if isAccess || !isChange then some times.1 else none
        modified := if isChange || !isAccess then some times.2 else none }
    for path in paths do
      unless path == "-" do touchOne m path

def mkfifo : Utility where
  name := "mkfifo"
  operands := "[OPTION]... NAME..."
  work arguments := do
    let t := OptionTable.ofTexts "m:Z" ["mode= m", "context? Z"] true 1
    let (found, paths) ← t.parse arguments
    if paths.isEmpty then misuse "missing operand"
    let mode? ←
      match Chosen.value? found "m" with
      | none => pure none
      | some text =>
        match Permission.read? text with
        | some changes => pure (some (Permission.applyAll changes false (← creationMask) 0o666))
        | none => fail "invalid mode"
    if mode?.any (0o777 < ·) then fail "mode must specify only file permission bits"
    for path in paths do
      match ← ask (.makeQueue path 0o666) with
      | .ok () =>
        if let some mode := mode? then
          let _ ← ask (.setMode path mode)
      | .error fault => blame "cannot create fifo" path fault

def nameLetters : List Char :=
  "abcdefghijklmnopqrstuvwxyzABCDEFGHIJKLMNOPQRSTUVWXYZ0123456789".toList

def lettersOf : Nat → Nat → List Char
  | 0, _ => []
  | count + 1, n =>
    let next := (n * 6364136223846793005 + 1442695040888963407) % Nat.pow 2 64 / 3
    nameLetters.getD (n % 62) 'a' :: lettersOf count next

structure Draft where
  isDirectory : Bool
  isDry : Bool
  isQuiet : Bool
  template : String
  count : Nat
  suffix : Nat

def makeFresh (d : Draft) : Nat → Nat → Job Unit
  | 0, _ => fail "failed to create a name"
  | fuel + 1, seed => do
    let cs := d.template.toList
    let kept := cs.take (cs.length - d.suffix - d.count)
    let path := String.ofList (kept ++ lettersOf d.count seed ++ cs.drop (cs.length - d.suffix))
    let made ←
      if d.isDry then pure (.ok ())
      else if d.isDirectory then ask (.makeDirectory path 0o700)
      else
        match ← ask (.openFile path ⟨true, true, false, true, true, false⟩ 0o600) with
        | .ok fd =>
          let _ ← ask (.close fd)
          pure (.ok ())
        | .error fault => pure (.error fault)
    match made with
    | .ok () => print (path ++ "\n")
    | .error .alreadyExists => makeFresh d fuel (seed * 31 + 7)
    | .error fault =>
      if d.isQuiet then throw 1
      fail ("failed to create " ++ (if d.isDirectory then "directory" else "file") ++
        " via template " ++ literal d.template ++ ": " ++ fault.text)

def freshPlace (found : List Chosen) (template : String) (isNamed : Bool) :
    Job (Option String) := do
  let place := ((← get).environment.lookup "TMPDIR").filter (· ≠ "")
  let given := (Chosen.value? found "p").filter (· ≠ "")
  if Chosen.has found "t" then
    if template.contains '/' then
      fail ("invalid template, " ++ literal template ++ ", contains directory separator")
    return some ((place <|> given).getD "/tmp")
  else if Chosen.has found "p" || !isNamed then
    if template.startsWith "/" then
      fail ("invalid template, " ++ literal template ++ "; with --tmpdir, it may not be absolute")
    return some ((given <|> place).getD "/tmp")
  else return none

def mktemp : Utility where
  name := "mktemp"
  operands := "[OPTION]... [TEMPLATE]"
  work arguments := do
    let t := OptionTable.ofTexts "dp:qtuV"
      ["directory d", "quiet q", "dry-run u", "suffix= suffix", "tmpdir? p"] true 1
    let (found, operands) ← t.parse arguments
    let has := Chosen.has found
    let template ←
      match operands with
      | [] => pure "tmp.XXXXXXXXXX"
      | [t] => pure t
      | _ => misuse "too many templates"
    let ending? := Chosen.value? found "suffix"
    if ending?.isSome && !template.endsWith "X" then
      fail ("with --suffix, template " ++ literal template ++ " must end in X")
    let template := template ++ ending?.getD ""
    let reversed := template.toList.reverse
    let suffix :=
      match ending? with
      | some ending => ending.length
      | none =>
        let behind := reversed.takeWhile (· ≠ 'X')
        if behind.length = reversed.length then 0 else behind.length
    let ending := (template.drop (template.length - suffix)).toString
    if ending.contains '/' then
      fail ("invalid suffix " ++ literal ending ++ ", contains directory separator")
    let count := ((reversed.drop suffix).takeWhile (· = 'X')).length
    if count < 3 then fail ("too few X's in template " ++ literal template)
    let whole :=
      match ← freshPlace found template !operands.isEmpty with
      | some d => (if d.endsWith "/" then d else d ++ "/") ++ template
      | none => template
    let seed := (← ask .clock).toNat + 7919 * (← ask .self)
    makeFresh ⟨has "d", has "u", has "q", whole, count, suffix⟩ 1000 seed

/-- How a size is changed: to another one, by some, to a bound, or to a multiple. -/
inductive Resizing
  | exactly
  | relative
  | atMost
  | atLeast
  | downTo
  | upTo
  deriving DecidableEq

namespace Resizing

def ofMark? (c : Char) : Option Resizing :=
  [('<', atMost), ('>', atLeast), ('/', downTo), ('%', upTo)].lookup c

def apply (r : Resizing) (old n : Int) : Int :=
  match r with
  | exactly => n
  | relative => old + n
  | atMost => min old n
  | atLeast => max old n
  | downTo => old - old % n
  | upTo => (old + n - 1) / n * n

end Resizing

def signedSize (text : String) : Except SizeFault Int := do
  let suffixes := "EgGkKmMPQRtTYZ"
  let n : Int ←
    match text.toList.dropWhile isLeadingBlank with
    | '-' :: c :: rest =>
      if c.isDigit then (readSize suffixes (String.ofList (c :: rest))).map fun n => -(n : Int)
      else .error .invalid
    | '+' :: c :: _ => if c.isDigit then (readSize suffixes text).map Int.ofNat else .error .invalid
    | _ => (readSize suffixes text).map Int.ofNat
  if n.natAbs < wordLimit / 2 then return n else throw .tooLarge

def resizingOf (text : String) : Job (Resizing × Int) := do
  let trimmed := text.toList.dropWhile isLeadingBlank
  let marked? := trimmed.head?.bind Resizing.ofMark?
  let rest := (if marked?.isSome then trimmed.drop 1 else trimmed).dropWhile isLeadingBlank
  let isSigned := rest.head?.any fun c => c = '+' || c = '-'
  if isSigned && marked?.isSome then misuse "multiple relative modifiers specified"
  let shown := String.ofList rest
  match signedSize shown with
  | .error .invalid => fail ("Invalid number: " ++ literal shown)
  | .error .tooLarge => outOfBounds "Invalid number" shown true
  | .ok n =>
    if n = 0 && (marked? = some .downTo || marked? = some .upTo) then fail "division by zero"
    return (marked?.getD (if isSigned then .relative else .exactly), n)

def truncate : Utility where
  name := "truncate"
  operands := "OPTION... FILE..."
  work arguments := do
    let t := OptionTable.ofTexts "cor:s:"
      ["no-create c", "io-blocks o", "reference= r", "size= s"] true 1
    let (found, paths) ← t.parse arguments
    let has := Chosen.has found
    let mut change? := none
    for (key, value) in found do
      if key == "s" then change? := some (← resizingOf (value.getD ""))
    let reference? := Chosen.value? found "r"
    if reference?.isNone && change?.isNone then
      misuse "you must specify either '--size' or '--reference'"
    if reference?.isSome && change?.any (·.1 = .exactly) then
      misuse "you must specify a relative '--size' with '--reference'"
    if has "o" && change?.isNone then misuse "'--io-blocks' was specified but '--size' was not"
    if paths.isEmpty then misuse "missing file operand"
    let base? ← reference?.mapM fun path => do
      match ← ask (.status path true) with
      | .ok s => pure s.content.size
      | .error fault => fail ("cannot stat " ++ quoted path ++ ": " ++ fault.text)
    for path in paths do
      match ← ask (.openFile path ⟨false, true, false, !has "c", false, false⟩ 0o666) with
      | .error fault =>
        unless has "c" && fault = .notFound do
          complain ("cannot open " ++ quoted path ++ " for writing: " ++ fault.text)
      | .ok fd =>
        let old := match ← ask (.statusOf fd) with
          | .ok s => s.content.size
          | .error _ => 0
        let size : Int :=
          match change? with
          | none => base?.getD old
          | some (r, n) => r.apply (base?.getD old) (if has "o" then 4096 * n else n)
        let _ ← ask (.truncate fd size.toNat)
        let _ ← ask (.close fd)

end Making

end ServerKeeper.Tool
