import ServerKeeper.Host.Accounts
import ServerKeeper.Tool.Making

namespace ServerKeeper.Tool.Copying

open Job Host Making
open ShownPath (quoted literal plain)

inductive Follow
  | all
  | named
  | none
  deriving DecidableEq

inductive Backup
  | none
  | simple
  | numbered
  | existing
  deriving DecidableEq

structure Manner where
  recursive : Bool
  follow : Follow
  keepsMode : Bool
  keepsOwner : Bool
  keepsTimes : Bool
  keepsLinks : Bool
  forced : Bool
  removesFirst : Bool
  skips : Bool
  skipsLoudly : Bool
  asks : Bool
  onlyNewer : Bool
  verbose : Bool
  symbolic : Bool
  hard : Bool
  moves : Bool
  backup : Backup
  suffix : String
  /-- The permissions of what is made, whatever the source has; and its owner and its group. -/
  mode : Option Nat
  owner : Option Nat
  group : Option Nat
  withAncestors : Bool
  mask : Nat

/-- What copying has made so far: directories, files for the nodes that they are copies of, and the
targets of named sources. -/
structure Record where
  directories : List Nat
  copies : List (Nat × String)
  targets : List String
  sources : List Nat
  named : String × String

abbrev Copy := StateT Record Job

def job {α : Type} (a : Job α) : Copy α := StateT.lift a

def call (c : Call) : Copy c.Reply := job (ask c)

def refuse (text : String) : Copy Bool := do
  job (complain text)
  return false

def refuseOwn : Copy Bool := do
  let (source, target) := (← get).named
  refuse ("cannot copy a directory, " ++ quoted source ++ ", into itself, " ++ quoted target)

def tellVerbose (m : Manner) (text : String) : Copy Unit := do
  if m.verbose then job (print text)

def arrow (source target : String) : String := quoted source ++ " -> " ++ quoted target

def inside (directory name : String) : String :=
  if directory.endsWith "/" then directory ++ name
  else if name.startsWith "/" then directory ++ name
  else directory ++ "/" ++ name

def withoutSlashes (path : String) : String :=
  let kept := (path.dropEndWhile (· == '/')).toString
  if kept.isEmpty && !path.isEmpty then "/" else kept

def lastPart (path : String) : String :=
  let bare := withoutSlashes path
  if bare == "/" then "/" else (bare.splitOn "/").getLast?.getD ""

def backupName (m : Manner) (path : String) : Job String := do
  let rec next : Nat → Nat → Job Nat
    | 0, n => return n
    | fuel + 1, n => do
      match ← statusOf? (path ++ ".~" ++ toString n ++ "~") false with
      | some _ => next fuel (n + 1)
      | none => return n
  let n ← next 1000000 1
  let isNumbered :=
    match m.backup with
    | .numbered => true
    | .existing => n > 1
    | _ => false
  return if isNumbered then path ++ ".~" ++ toString n ++ "~" else path ++ m.suffix

def pour (source target : Nat) : Nat → Job (Except FileFault Unit)
  | 0 => return .ok ()
  | fuel + 1 => do
    match ← ask (.read source 65536) with
    | .error fault => return .error fault
    | .ok piece =>
      if piece.isEmpty then return .ok ()
      else
        match ← ask (.write target piece) with
        | .error fault => return .error fault
        | .ok () => pour source target fuel

def dress (m : Manner) (s : FileStatus) (isNew : Bool) (target : String) : Copy Unit := do
  let follows := !s.content.isLink
  if m.keepsTimes then
    let _ ← call (.setTimes target follows (some s.accessed) (some s.modified))
  if m.keepsOwner then
    let _ ← call (.setOwner target follows (some s.owner) (some s.group))
  if m.owner.isSome || m.group.isSome then
    let _ ← call (.setOwner target follows m.owner m.group)
  match m.mode with
  | some mode =>
    let _ ← call (.setMode target mode)
  | none =>
    if s.content.isLink then pure ()
    else if m.keepsMode then
      let _ ← call (.setMode target s.mode)
    else if isNew && s.content.isDirectory then
      if let some t ← job (statusOf? target true) then
        let mode := Permission.without (s.mode &&& 0o777) m.mask ||| (t.mode &&& Disk.groupMark)
        let _ ← call (.setMode target mode)

def copyContent (m : Manner) (source target : String) (s : FileStatus) (isNew : Bool) :
    Copy Bool := do
  match ← call (.openFile source .toRead 0) with
  | .error fault => refuse ("cannot open " ++ quoted source ++ " for reading: " ++ fault.text)
  | .ok input =>
    let mode := (m.mode.map fun _ => 0o600).getD s.mode
    let onlyOld : Opening := ⟨false, true, false, false, false, true⟩
    let onlyNew : Opening := ⟨false, true, false, true, true, false⟩
    let opened ←
      if isNew then pure (Except.error FileFault.notFound)
      else call (.openFile target onlyOld 0)
    let isDangling ←
      if isNew then pure ((← job (statusOf? target false)).any (·.content.isLink)) else pure false
    let opened ←
      match opened with
      | .ok fd => pure (.ok fd)
      | .error fault =>
        if isNew then call (.openFile target onlyNew mode)
        else if m.forced then do
          let _ ← call (.removeName target)
          call (.openFile target onlyNew mode)
        else pure (.error fault)
    match opened with
    | .error fault =>
      let _ ← call (.close input)
      let fault := if fault = .isADirectory && target.endsWith "/" then .notADirectory else fault
      if isDangling && fault = .alreadyExists then
        refuse ("not writing through dangling symlink " ++ quoted target)
      else refuse ("cannot create regular file " ++ quoted target ++ ": " ++ fault.text)
    | .ok output =>
      let r ← job (pour input output maxRounds)
      let _ ← call (.close input)
      let _ ← call (.close output)
      dress m s isNew target
      match r with
      | .ok () => return true
      | .error fault =>
        refuse ("error copying " ++ quoted source ++ " to " ++ quoted target ++ ": " ++
          fault.text)

def targetStatus (m : Manner) (s : FileStatus) (target : String) :
    Copy (Except FileFault (Option FileStatus)) := do
  let followsLast :=
    s.content.isFile && !m.moves && !m.symbolic && !m.hard && m.backup = .none && !m.removesFirst
  match ← call (.status target followsLast) with
  | .ok t => return .ok (some t)
  | .error .notFound => return .ok none
  | .error fault => return .error fault

def isSame (m : Manner) (source target : String) (s t : FileStatus) : Copy Bool := do
  match ← job (statusOf? source false), ← job (statusOf? target false) with
  | some a, some b =>
    if a.number = b.number && (m.symbolic || m.hard && !m.removesFirst && !m.forced) then
      return m.symbolic
    else if s.number ≠ t.number then
      let u ← job (statusOf? target true)
      return !m.moves && !m.removesFirst && m.follow = .none && s.content.isLink &&
        u.any (fun u => u.number = s.number)
    else if (m.moves || m.removesFirst) && b.content.isLink then return a.number = b.number
    else if m.hard then return false
    else return true
  | _, _ => return s.number = t.number

def mayReplace (m : Manner) (target : String) (s t : FileStatus) : Copy (Option Bool) := do
  if m.onlyNewer && !s.content.isDirectory && s.modified ≤ t.modified then return some true
  else if m.skips && !(s.content.isDirectory && !m.moves) then
    if m.skipsLoudly then
      job (complain ("not replacing " ++ quoted target))
      return some false
    else return some true
  else if m.asks && !(s.content.isDirectory && !m.moves) then
    let name := (← job get).name
    if ← job (confirm (name ++ ": overwrite " ++ quoted target ++ "? ")) then return none
    else
      job (setStatus 1)
      return some false
  else return none

mutual

def copyOne (m : Manner) : Nat → Bool → String → String → Copy Bool
  | 0, _, _, _ => return false
  | fuel + 1, isNamed, source, target => do
    let followsLast := m.follow = .all || m.follow = .named && isNamed
    match ← call (.status source (followsLast && !m.moves)) with
    | .error fault => refuse ("cannot stat " ++ quoted source ++ ": " ++ fault.text)
    | .ok s =>
      if s.content.isDirectory && !m.recursive && !m.moves then
        if m.mode.isSome then refuse ("omitting directory " ++ quoted source)
        else refuse ("-r not specified; omitting directory " ++ quoted source)
      else
        match ← targetStatus m s target with
        | .error fault => refuse ("cannot stat " ++ quoted target ++ ": " ++ fault.text)
        | .ok none => place m fuel source target s true
        | .ok (some t) =>
          if !m.skips && (← isSame m source target s t) then
            refuse (quoted source ++ " and " ++ quoted target ++ " are the same file")
          else
            match ← mayReplace m target s t with
            | some r => return r
            | none =>
              if !t.content.isDirectory && s.content.isDirectory &&
                  !(m.moves && m.backup ≠ .none) then
                refuse ("cannot overwrite non-directory " ++ quoted target ++ " with directory " ++
                  quoted source)
              else if isNamed && !t.content.isDirectory && (← get).targets.contains target &&
                  m.backup ≠ .numbered then
                refuse ("will not overwrite just-created " ++ quoted target ++ " with " ++
                  quoted source)
              else if t.content.isDirectory && !s.content.isDirectory &&
                  !(m.moves && m.backup ≠ .none) then
                refuse ("cannot overwrite directory " ++ quoted target ++ " with non-directory")
              else replace m fuel source target s t

def replace (m : Manner) : Nat → String → String → FileStatus → FileStatus → Copy Bool
  | 0, _, _, _, _ => return false
  | fuel + 1, source, target, s, t => do
    if m.backup ≠ .none && !(s.content.isDirectory && !m.moves) then
      let name ← job (backupName m target)
      match ← call (.move target name) with
      | .error fault => refuse ("cannot backup " ++ quoted target ++ ": " ++ fault.text)
      | .ok () => place m fuel source target s true
    else if !t.content.isDirectory && !m.moves &&
        (m.removesFirst || m.keepsLinks && t.links > 1 ||
          m.follow = .none && !s.content.isFile) then
      match ← call (.removeName target) with
      | .error fault => refuse ("cannot remove " ++ quoted target ++ ": " ++ fault.text)
      | .ok () =>
        tellVerbose m ("removed " ++ quoted target ++ "\n")
        place m fuel source target s true
    else place m fuel source target s false

def place (m : Manner) : Nat → String → String → FileStatus → Bool → Copy Bool
  | 0, _, _, _, _ => return false
  | fuel + 1, source, target, s, isNew => do
    if m.moves then moveTo m source target
    else
      if !s.content.isDirectory then tellVerbose m (arrow source target ++ "\n")
      modify fun r => { r with targets := target :: r.targets }
      let copies := (← get).copies
      let earlier :=
        if m.keepsLinks && !s.content.isDirectory && s.links > 1 then copies.lookup s.number
        else none
      match earlier, s.content with
      | some path, _ => linkTo m path target isNew
      | none, .directory .. => copyDirectory m fuel source target s isNew
      | none, content =>
        if s.links > 1 then modify fun r => { r with copies := (s.number, target) :: r.copies }
        if m.symbolic then
          if m.forced && !isNew then
            let _ ← call (.removeName target)
          match ← call (.makeLink target source) with
          | .ok () => return true
          | .error fault =>
            refuse ("cannot create symbolic link " ++ quoted target ++ " to " ++ quoted source ++
              ": " ++ fault.text)
        else if m.hard then linkTo m source target isNew
        else
          match content with
          | .link aim =>
            if !isNew then
              let _ ← call (.removeName target)
            match ← call (.makeLink target aim) with
            | .ok () =>
              dress m s isNew target
              return true
            | .error fault =>
              refuse ("cannot create symbolic link " ++ quoted target ++ ": " ++ fault.text)
          | .queue =>
            if m.recursive then
              match ← call (.makeQueue target s.mode) with
              | .ok () => return true
              | .error fault =>
                refuse ("cannot create fifo " ++ quoted target ++ ": " ++ fault.text)
            else copyContent m source target s isNew
          | _ => copyContent m source target s isNew

def copyDirectory (m : Manner) : Nat → String → String → FileStatus → Bool → Copy Bool
  | 0, _, _, _, _ => return false
  | fuel + 1, source, target, s, isNew => do
    if (← get).directories.contains s.number then
      refuseOwn
    else
      let made ←
        if isNew then call (.makeDirectory target (s.mode &&& 0o777 ||| 0o700)) else pure (.ok ())
      match made with
      | .error fault => refuse ("cannot create directory " ++ quoted target ++ ": " ++ fault.text)
      | .ok () =>
        if isNew then tellVerbose m (arrow source target ++ "\n")
        if let some t ← job (statusOf? target true) then
          modify fun r => { r with directories := t.number :: r.directories }
        match ← call (.list source) with
        | .error fault => refuse ("cannot access " ++ quoted source ++ ": " ++ fault.text)
        | .ok names =>
          let r ← copyNames m fuel source target names
          dress m s isNew target
          return r

def copyNames (m : Manner) : Nat → String → String → List String → Copy Bool
  | 0, _, _, _ => return false
  | _, _, _, [] => return true
  | fuel + 1, source, target, name :: rest => do
    let from_ := inside source name
    let copied := inside target name
    let isOwn ← do
      match ← job (statusOf? from_ false) with
      | some s => pure (s.content.isDirectory && (← get).directories.contains s.number)
      | none => pure false
    let r ←
      if isOwn then
        refuseOwn
      else copyOne m fuel false from_ copied
    return (← copyNames m fuel source target rest) && r

def linkTo (m : Manner) (source target : String) (isNew : Bool) : Copy Bool := do
  if !isNew then
    let _ ← call (.removeName target)
  let source' ←
    if m.follow = .all then
      match ← job (canonical .whole true source) with
      | .ok path => pure path
      | .error _ => pure source
    else pure source
  match ← call (.makeName source' target) with
  | .ok () => return true
  | .error fault =>
    refuse ("cannot create hard link " ++ quoted target ++ " to " ++ quoted source ++ ": " ++
      fault.text)

def moveTo (m : Manner) (source target : String) : Copy Bool := do
  match ← call (.move source target) with
  | .ok () =>
    tellVerbose m ("renamed " ++ arrow source target ++ "\n")
    modify fun r => { r with targets := target :: r.targets }
    return true
  | .error .invalidArgument =>
    refuse ("cannot move " ++ quoted source ++ " to a subdirectory of itself, " ++ quoted target)
  | .error fault =>
    match fault with
    | .alreadyExists | .isADirectory | .notEmpty | .noSpace =>
      refuse ("cannot overwrite " ++ quoted target ++ ": " ++ fault.text)
    | fault =>
      refuse ("cannot move " ++ quoted source ++ " to " ++ quoted target ++ ": " ++ fault.text)

end

def isDirectoryAt (path : String) : Job (Except FileFault Bool) := do
  match ← ask (.status path true) with
  | .ok s => return .ok s.content.isDirectory
  | .error fault => return .error fault

inductive Target
  | path (p : String)
  | directory (p : String)

def sourcesAndTarget (found : List Chosen) (operands : List String) :
    Job (List String × Target) := do
  let into := Chosen.value? found "t"
  match operands with
  | [] => misuse "missing file operand"
  | [path] =>
    if into.isNone then
      misuse ("missing destination file operand after " ++ quoted path)
  | _ => pure ()
  if Chosen.has found "T" then
    if into.isSome then
      fail "cannot combine --target-directory (-t) and --no-target-directory (-T)"
    match operands with
    | [source, target] => return ([source], .path target)
    | _ :: _ :: extra :: _ => misuse ("extra operand " ++ quoted extra)
    | _ => misuse "missing file operand"
  else
    match into with
    | some place =>
      match ← isDirectoryAt place with
      | .ok true => return (operands, .directory place)
      | .ok false => fail ("target directory " ++ quoted place ++ ": Not a directory")
      | .error fault => fail ("target directory " ++ quoted place ++ ": " ++ fault.text)
    | none =>
      let last := operands.getLast?.getD ""
      let sources := operands.dropLast
      match ← isDirectoryAt last with
      | .ok true => return (sources, .directory last)
      | .ok false =>
        if sources.length > 1 then fail ("target " ++ quoted last ++ ": Not a directory")
        else return (sources, .path last)
      | .error fault =>
        if sources.length > 1 then fail ("target " ++ quoted last ++ ": " ++ fault.text)
        else return (sources, .path last)

def goal (m : Manner) (source : String) : Target → String
  | .path p => p
  | .directory d =>
    if m.withAncestors then inside d (withoutSlashes source)
    else
      let last := lastPart source
      if last == ".." then d else inside d last

def makeLikeAncestors (directory : String) : List (String × String) → Job Bool
  | [] => return true
  | (path, _) :: rest => do
    let target := inside directory path
    match ← statusOf? target true with
    | some s =>
      if s.content.isDirectory then makeLikeAncestors directory rest
      else
        complain (quoted target ++ " exists but is not a directory")
        return false
    | none =>
      match ← ask (.status path true) with
      | .error fault =>
        complain ("failed to get attributes of " ++ quoted path ++ ": " ++ fault.text)
        return false
      | .ok s =>
        match ← ask (.makeDirectory target s.mode) with
        | .ok () => makeLikeAncestors directory rest
        | .error fault =>
          complain ("cannot make directory " ++ quoted target ++ ": " ++ fault.text)
          return false

def copyEach (m : Manner) (target : Target) : List String → Copy Unit
  | [] => pure ()
  | source :: rest => do
    let isReady ←
      match m.withAncestors, target with
      | true, .directory d => job (makeLikeAncestors d (ancestors source))
      | _, _ => pure true
    let isTwice ← do
      match ← job (statusOf? source (m.follow ≠ .none)) with
      | some s =>
        let isTwice := !m.moves && (← get).sources.contains s.number && m.backup = .none
        modify fun r => { r with sources := s.number :: r.sources }
        if isTwice then
          let kind := if s.content.isDirectory then "directory " else "file "
          let isShown := !s.content.isDirectory || m.recursive
          if isShown then
            job (tell ((← job get).name ++ ": warning: source " ++ kind ++ quoted source ++
              " specified more than once\n"))
          pure isShown
        else pure false
      | none => pure false
    if isReady && !isTwice then
      let path := goal m source target
      modify fun r => { r with named := (source, path) }
      let _ ← copyOne m maxRounds true source path
    copyEach m target rest

def backupOf (found : List Chosen) : Job Backup := do
  let choose (what word : String) : Job Backup := do
    if word.isEmpty then return .existing
    else
      choice (hint 1) what
        [("none", .none), ("off", .none), ("simple", .simple), ("never", .simple),
         ("existing", .existing), ("nil", .existing), ("numbered", .numbered), ("t", .numbered)]
        word
  if !(["b", "backup", "S"].any fun key => Chosen.has found key) then return .none
  else
    match (found.filter fun (key, value) => key == "backup" && value.isSome).getLast? with
    | some (_, word) => choose "backup type" (word.getD "")
    | none => choose "$VERSION_CONTROL" ((← environmentValue? "VERSION_CONTROL").getD "")

inductive Overwriting
  | free
  | asked
  | refused
  | skipped
  deriving DecidableEq

def overwritingOf (found : List Chosen) : Job (Overwriting × Bool) := do
  let mut overwriting := Overwriting.free
  let mut onlyNewer := false
  for (key, value) in found do
    match key, value with
    | "f", _ => overwriting := .free
    | "i", _ => overwriting := .asked
    | "n", _ => overwriting := .refused
    | "u", none => onlyNewer := true
    | "u", some word =>
      if overwriting ≠ .refused then
        (overwriting, onlyNewer) ← choice (hint 1) "--update"
          [("all", (.free, false)), ("none", (.skipped, false)), ("older", (.free, true))] word
    | _, _ => pure ()
  return (overwriting, onlyNewer && overwriting ≠ .refused)

def ignoreContext (found : List Chosen) (kind : String) : Job Unit := do
  if (Chosen.value? found "Z").isSome then
    tell ((← get).name ++ ": warning: ignoring --context; it requires an " ++ kind ++
      "-enabled kernel\n")

def plainManner (mask : Nat) : Manner :=
  { recursive := false, follow := .all, keepsMode := false, keepsOwner := false,
    keepsTimes := false, keepsLinks := false, forced := false, removesFirst := false,
    skips := false, skipsLoudly := false, asks := false, onlyNewer := false, verbose := false,
    symbolic := false, hard := false, moves := false, backup := .none, suffix := "~",
    mode := none, owner := none, group := none, withAncestors := false, mask }

def suffixOf (found : List Chosen) (environment : List (String × String)) : String :=
  ((Chosen.value? found "S").orElse fun _ => environment.lookup "SIMPLE_BACKUP_SUFFIX").getD "~"

inductive Kept
  | mode
  | timestamps
  | ownership
  | links
  | context
  | attributes
  | all
  deriving BEq

def keptOf (found : List Chosen) : Job (List Kept) := do
  let usual : List Kept := [.mode, .ownership, .timestamps]
  let everything : List Kept := usual ++ [.links]
  let named (option text : String) : Job (List Kept) := do
    let mut all := []
    for word in text.splitOn "," do
      let k ← choice (hint 1) option
        [("mode", Kept.mode), ("timestamps", .timestamps), ("ownership", .ownership),
         ("links", .links), ("context", .context), ("xattr", .attributes), ("all", .all)] word
      all := all ++ if k == .all then everything else [k]
    return all
  let mut kept := []
  for (key, value) in found do
    match key, value with
    | "a", _ => kept := kept ++ everything
    | "d", _ => kept := kept ++ [.links]
    | "p", _ | "preserve", none => kept := kept ++ usual
    | "preserve", some text => kept := kept ++ (← named "--preserve" text)
    | "drop", some text =>
      let dropped ← named "--no-preserve" text
      kept := kept.filter fun k => !dropped.contains k
    | _, _ => pure ()
  return kept

def cp : Utility where
  name := "cp"
  operands := "[OPTION]... [-T] SOURCE DEST"
  work arguments := do
    let t := OptionTable.ofTexts "abdfHilLnprst:uvxPRS:TZ"
      ["archive a", "attributes-only attributes", "backup? backup", "copy-contents contents",
       "debug v", "dereference L", "force f", "interactive i", "link l", "no-clobber n",
       "no-dereference P", "no-preserve= drop", "no-target-directory T", "one-file-system x",
       "parents parents", "path parents", "preserve? preserve", "recursive R", "reflink? reflink",
       "remove-destination remove", "sparse= sparse", "strip-trailing-slashes strip", "suffix= S",
       "symbolic-link s", "target-directory= t", "update? u", "verbose v", "context? Z"] true 1
    let (found, operands) ← t.parse arguments
    let has := Chosen.has found
    let name := (← get).name
    if has "l" && has "s" then misuse "cannot make both hard and symbolic links"
    let recursive := has "a" || has "r" || has "R"
    let follow :=
      match Chosen.last? found ["a", "d", "H", "L", "P"] with
      | some "H" => Follow.named
      | some "L" => .all
      | some _ => .none
      | none => if recursive && !has "l" then .none else .all
    let kept ← keptOf found
    let keeps (what : Kept) : Bool := kept.contains what
    let (overwriting, onlyNewer) ← overwritingOf (found.filter (·.1 ≠ "f"))
    let whens := ["never", "auto", "always"].map fun word => (word, word)
    let holes ← (Chosen.value? found "sparse").mapM fun word => choice (hint 1) "--sparse" whens word
    let cloning ← (Chosen.value? found "reflink").mapM fun word =>
      choice (hint 1) "--reflink" [("auto", 0), ("always", 1), ("never", 2)] word
    let clones := has "reflink" && cloning.getD 1 = 1
    if clones && holes.any (· ≠ "auto") then
      misuse "--reflink can be used only with --sparse=auto"
    if has "n" then
      tell (name ++ ": warning: behavior of -n is non-portable and may change in future; " ++
        "use --update=none instead\n")
    ignoreContext found "SELinux"
    let m : Manner :=
      { plainManner (← creationMask) with
        recursive, follow
        keepsMode := keeps .mode, keepsOwner := keeps .ownership
        keepsTimes := keeps .timestamps, keepsLinks := keeps .links
        forced := has "f"
        removesFirst := has "remove"
        skips := overwriting = .refused || overwriting = .skipped
        skipsLoudly := false
        asks := overwriting = .asked
        onlyNewer
        verbose := has "v", symbolic := has "s", hard := has "l"
        backup := ← backupOf found
        suffix := suffixOf found (← get).environment
        withAncestors := has "parents" }
    let (sources, target) ← sourcesAndTarget found operands
    let sources :=
      match target with
      | .path _ => sources
      | .directory _ => if has "strip" then sources.map withoutSlashes else sources
    if m.withAncestors then
      match target with
      | .path _ => misuse "with --parents, the destination must be a directory"
      | .directory _ => pure ()
    let _ ← (copyEach m target sources).run ⟨[], [], [], [], "", ""⟩

def mv : Utility where
  name := "mv"
  operands := "[OPTION]... [-T] SOURCE DEST"
  work arguments := do
    let t := OptionTable.ofTexts "bfint:uvS:TZ"
      ["backup? backup", "context Z", "debug v", "force f", "interactive i", "no-clobber n",
       "no-copy no", "no-target-directory T", "strip-trailing-slashes strip", "suffix= S",
       "target-directory= t", "update? u", "verbose v"] true 1
    let (found, operands) ← t.parse arguments
    let has := Chosen.has found
    let operands := if has "strip" then operands.map withoutSlashes else operands
    let (overwriting, onlyNewer) ← overwritingOf found
    if overwriting = .refused && (has "b" || has "backup" || has "S") then
      misuse "options --backup and --no-clobber are mutually exclusive"
    let m : Manner :=
      { plainManner (← creationMask) with
        recursive := true
        follow := .none
        moves := true
        skips := overwriting = .refused || overwriting = .skipped
        skipsLoudly := overwriting = .refused
        asks := overwriting = .asked
        onlyNewer
        verbose := has "v"
        backup := ← backupOf found
        suffix := suffixOf found (← get).environment }
    let (sources, target) ← sourcesAndTarget found operands
    let _ ← (copyEach m target sources).run ⟨[], [], [], [], "", ""⟩

structure LinkManner where
  symbolic : Bool
  forced : Bool
  asks : Bool
  logical : Bool
  relative : Bool
  verbose : Bool
  backup : Backup
  suffix : String
  directories : Bool
  protects : Bool

def makeLinkAt (k : LinkManner) (source path : String) : Job (Except FileFault Unit) := do
  if k.symbolic then
    if source.isEmpty then return .error .notFound else ask (.makeLink path source)
  else if k.logical then
    match ← canonical .whole true source with
    | .ok real => ask (.makeName real path)
    | .error fault => return .error fault
  else ask (.makeName source path)

def blameLink (k : LinkManner) (source path : String) (fault : FileFault) : Job Unit := do
  let text :=
    if k.symbolic then
      if fault ≠ .nameTooLong && !source.isEmpty then
        "failed to create symbolic link " ++ quoted path
      else "failed to create symbolic link " ++ arrow path source
    else if fault = .alreadyExists || fault = .noSpace then
      "failed to create hard link " ++ quoted path
    else "failed to create hard link " ++ quoted path ++ " => " ++ quoted source
  complain (text ++ ": " ++ fault.text)

def relativeSource (source path : String) : Job String := do
  let above := match (path.splitOn "/").dropLast with
    | [] => "."
    | parts => if parts == [""] then "/" else "/".intercalate parts
  match ← canonical .nothing true above, ← canonical .nothing true source with
  | .ok base, .ok real => return Canonical.relative base real
  | _, _ => return source

def tellLink (k : LinkManner) (source path : String) (backup? : Option String) : Job Unit := do
  if k.verbose then
    print ((backup?.elim "" fun name => quoted name ++ " ~ ") ++ quoted path ++
      (if k.symbolic then " -> " else " => ") ++ quoted source ++ "\n")

def replaceWithLink (k : LinkManner) (source path : String) : Job Bool := do
  let mayGo ←
    if k.asks then confirm ((← get).name ++ ": replace " ++ quoted path ++ "? ") else pure true
  if !mayGo then
    setStatus 1
    return false
  else
    let backup? ←
      if k.backup = .none then
        let _ ← ask (.removeName path)
        pure none
      else
        let m : Manner := { plainManner 0 with backup := k.backup, suffix := k.suffix }
        let name ← backupName m path
        let _ ← ask (.move path name)
        pure (some name)
    match ← makeLinkAt k source path with
    | .ok () =>
      tellLink k source path backup?
      return true
    | .error fault =>
      blameLink k source path fault
      return false

def linkOne (k : LinkManner) (made : List String) (source path : String) : Job Bool := do
  let named := source
  let source ← if k.relative then relativeSource source path else pure source
  match ← makeLinkAt k source path with
  | .ok () =>
    tellLink k source path none
    return true
  | .error fault =>
    let s? ← if k.symbolic then pure (.error .notFound) else ask (.status named k.logical)
    match s?, k.symbolic with
    | .error fault, false => blame "failed to access" named fault
    | s?, _ =>
      let isDirectory := s?.toOption.any (·.content.isDirectory)
      if !k.symbolic && !k.directories && isDirectory then
        complain (plain named ++ ": hard link not allowed for directory")
      else if !(k.forced || k.asks || k.backup ≠ .none) then blameLink k source path fault
      else
        match ← ask (.status path false) with
        | .error .notFound => blameLink k source path fault
        | .error other => blame "failed to access" path other
        | .ok t =>
          let own ← if k.symbolic then statusOf? source true else statusOf? named k.logical
          let isSame := own.any (fun s => s.number = t.number && (s.links = 1 || named == path)) &&
            (k.backup = .none || !k.symbolic)
          if t.content.isDirectory then complain (plain path ++ ": cannot overwrite directory")
          else if k.protects && made.contains path then
            complain ("will not overwrite just-created " ++ quoted path ++ " with " ++
              quoted source)
          else if isSame then
            complain (quoted source ++ " and " ++ quoted path ++ " are the same file")
          else return ← replaceWithLink k source path
    return false

def linkInto (k : LinkManner) (directory : String) : List String → List String → Job Unit
  | [], _ => pure ()
  | source :: rest, made => do
    let path := inside directory (lastPart source)
    let isMade ← linkOne k made source path
    linkInto k directory rest (if isMade then path :: made else made)

def linkTarget (found : List Chosen) (operands : List String) :
    Job (List String × Option String × String) := do
  let places := found.filterMap fun (key, value) => if key == "t" then value else none
  if places.length > 1 then fail "multiple target directories specified"
  let isPlace (path : String) : Job (Except FileFault Bool) := do
    match ← ask (.status path (!Chosen.has found "n")) with
    | .ok s => return .ok s.content.isDirectory
    | .error fault => return .error fault
  let place? ←
    match places with
    | [] => pure none
    | place :: _ =>
      match ← isPlace place with
      | .ok true => pure (some place)
      | .ok false => fail ("target " ++ quoted place ++ " is not a directory")
      | .error fault => fail ("failed to access " ++ quoted place ++ ": " ++ fault.text)
  if operands.isEmpty then misuse "missing file operand"
  if Chosen.has found "r" && !Chosen.has found "s" then
    fail "cannot do --relative without --symbolic"
  if Chosen.has found "T" then
    if place?.isSome then fail "cannot combine --target-directory and --no-target-directory"
    match operands with
    | [source, path] => return ([source], none, path)
    | [source] => misuse ("missing destination file operand after " ++ quoted source)
    | operands => misuse ("extra operand " ++ quoted (operands.getD 2 ""))
  else
    match place?, operands with
    | some place, sources => return (sources, some place, "")
    | none, [source] => return ([source], some ".", "")
    | none, operands =>
      let last := operands.getLast?.getD ""
      let sources := operands.dropLast
      match ← isPlace last with
      | .ok true => return (sources, some last, "")
      | other =>
        if sources.length = 1 then return (sources, none, last)
        else
          let fault := match other with
            | .error fault => fault
            | .ok _ => .notADirectory
          fail ("target " ++ quoted last ++ ": " ++ fault.text)

def ln : Utility where
  name := "ln"
  operands := "[OPTION]... [-T] TARGET LINK_NAME"
  work arguments := do
    let t := OptionTable.ofTexts "bdfinrst:vFLPS:T"
      ["backup? backup", "directory F", "no-dereference n", "no-target-directory T", "force f",
       "interactive i", "suffix= S", "target-directory= t", "logical L", "physical P", "relative r",
       "symbolic s", "verbose v"] true 1
    let (found, operands) ← t.parse arguments
    let has := Chosen.has found
    let (sources, directory?, path) ← linkTarget found operands
    let forced := Chosen.last? found ["f", "i"] = some "f"
    let backup ← backupOf found
    let k : LinkManner :=
      { symbolic := has "s"
        forced
        asks := Chosen.last? found ["f", "i"] = some "i"
        logical := Chosen.last? found ["L", "P"] = some "L"
        relative := has "r"
        verbose := has "v"
        backup
        suffix := suffixOf found (← get).environment
        directories := has "d" || has "F"
        protects := sources.length > 1 && forced && !has "s" && backup ≠ .numbered }
    match directory? with
    | some directory => linkInto k directory sources []
    | none =>
      for source in sources do
        let _ ← linkOne k [] source path

def link : Utility where
  name := "link"
  operands := "FILE1 FILE2"
  work arguments := do
    let t := OptionTable.ofTexts "" [] true 1
    let (_, operands) ← t.parse arguments
    match operands with
    | [] => misuse "missing operand"
    | [path] => misuse ("missing operand after " ++ literal path)
    | [source, path] =>
      match ← ask (.makeName source path) with
      | .ok () => pure ()
      | .error fault =>
        complain ("cannot create link " ++ quoted path ++ " to " ++ quoted source ++ ": " ++
          fault.text)
    | _ :: _ :: extra :: _ => misuse ("extra operand " ++ literal extra)

def install : Utility where
  name := "install"
  operands := "[OPTION]... [-T] SOURCE DEST"
  work arguments := do
    let t := OptionTable.ofTexts "bcCsDdg:m:o:pt:TvS:Z"
      ["backup? backup", "compare C", "context? Z", "debug v", "directory d", "group= g", "mode= m",
       "no-target-directory T", "owner= o", "preserve-timestamps p", "preserve-context context",
       "strip s", "strip-program= program", "suffix= S", "target-directory= t", "verbose v"] true 1
    let (found, operands) ← t.parse arguments
    let has := Chosen.has found
    let mask ← creationMask
    ignoreContext found "SELinux"
    if has "program" && !has "s" then
      tell ((← get).name ++ ": WARNING: ignoring --strip-program option as -s option was not " ++
        "specified\n")
    let changes ←
      match Chosen.value? found "m" with
      | none => pure none
      | some text =>
        match Permission.read? text with
        | some changes => pure (some changes)
        | none => fail ("invalid mode " ++ literal text)
    let modeFor (isDirectory : Bool) : Nat :=
      match changes with
      | none => 0o755
      | some changes => Permission.applyAll changes isDirectory 0 0
    let idOf (key what : String) (known : String → Option Nat) : Job (Option Nat) := do
      (Chosen.value? found key).mapM fun text => do
        match (known text).or (natural? text) with
        | some n => return n
        | none => fail ("invalid " ++ what ++ " " ++ literal text)
    let owner ← idOf "o" "user" fun text => (User.named? text).map (·.number)
    let group ← idOf "g" "group" Group.named?
    let own (path : String) : Job Unit := do
      if owner.isSome || group.isSome then
        let _ ← ask (.setOwner path true owner group)
    let name := (← get).name
    let announce (path : String) : Job Unit := do
      if has "v" then print (name ++ ": creating directory " ++ quoted path ++ "\n")
    if has "d" then
      if operands.isEmpty then misuse "missing file operand"
      for path in operands do
        let there ← statusOf? path true
        let exact := [⟨'=', .bits, Permission.all, modeFor true, Permission.all⟩]
        let made ← makeDirectory true (some exact) mask announce path
        if made then own path
        if made && (there.isSome || owner.isSome) then
          let _ ← ask (.setMode path (modeFor true))
    else
      let m : Manner :=
        { plainManner mask with
          removesFirst := true
          verbose := has "v"
          keepsTimes := has "p"
          backup := ← backupOf found
          suffix := suffixOf found (← get).environment
          mode := some (modeFor false)
          owner
          group }
      if has "D" then
        match Chosen.value? found "t", operands with
        | some place, _ =>
          if (← statusOf? place true).isNone then
            let _ ← makeDirectory true none mask announce place
        | none, [_, path] =>
          match (ancestors path).getLast? with
          | some (above, _) =>
            if (← statusOf? above true).isNone then
              let _ ← makeDirectory true none mask announce above
          | none => pure ()
        | none, _ => pure ()
      let (sources, target) ← sourcesAndTarget found operands
      let unchanged (source path : String) : Job Bool := do
        if !has "C" then return false
        else
          match ← readInput source, ← readInput path, ← statusOf? path false with
          | .ok a, .ok b, some s => return a == b && s.content.isFile && s.mode = modeFor false
          | _, _, _ => return false
      for source in sources do
        unless ← unchanged source (goal m source target) do
          let _ ← (copyEach m target [source]).run ⟨[], [], [], [], "", ""⟩

end ServerKeeper.Tool.Copying
