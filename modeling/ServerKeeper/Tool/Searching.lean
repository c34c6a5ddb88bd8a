import ServerKeeper.Regex.Reading
import ServerKeeper.Shell.Pattern
import ServerKeeper.Tool.Searching.Scan

namespace ServerKeeper.Tool.Searching

open Job Host
open Regex (Compiled Dialect Frame)

/-- What came of the search so far: a line that was selected, something wrong, and whether any line
was shown. -/
structure Results where
  found : Bool
  failed : Bool
  hasShown : Bool

inductive Directories
  | read
  | recurse
  | skip
  deriving DecidableEq

/-- Which files or directories are left out: a pattern, and whether it says what is searched. The
last one that fits decides. -/
abbrev Rules := List (Bool × String)

structure Scope where
  directories : Directories
  followsLinks : Bool
  skipsDevices : Option Bool
  files : Rules
  innerDirectories : Rules

def forms (path : String) (isNamed : Bool) : List String :=
  if isNamed then
    let parts := path.splitOn "/"
    (List.range parts.length).map fun i => "/".intercalate (parts.drop i)
  else [(path.splitOn "/").getLast?.getD path]

def isLeftOut (rules : Rules) (path : String) (isNamed : Bool) : Bool :=
  let forms := forms path isNamed
  match rules.reverse.find? fun (_, p) => forms.any (Shell.Pattern.matchesText p) with
  | some (includes, _) => !includes
  | none => (rules.head?.map (·.1)).getD false

def note (k : Look) (path text : String) (r : Results) : Job Results := do
  unless k.silent do complainWith 2 (path ++ ": " ++ text)
  return { r with failed := true }

def leaveInput (o : View.Outcome) : Job Unit := do
  if o.scan.left = some 0 && o.scan.resume < o.size then
    let _ ← ask (.skipBack 0 (o.size - o.scan.resume))

def searchOpen (v : View) (fd : Nat) (r : Results) : Job Results := do
  let k := v.look
  let o ← v.scanFrom fd maxRounds "" 0 (Scan.start k r.hasShown)
  let selected := o.scan.selected
  let r := { r with found := r.found || selected > 0, hasShown := o.scan.hasShown }
  let r ←
    match o.fault? with
    | some fault => note k v.name fault.text r
    | none => pure r
  if o.scan.binaryFrom.any (· < selected) && !k.hidesLines then
    tell ((← get).name ++ ": " ++ v.name ++ ": binary file matches\n")
  if k.counts && !k.stopsAtFirst then
    print ((if k.names then k.name v.name ":" else "") ++ toString selected ++ "\n")
  if !k.quiet && k.lists == some (0 < selected : Bool) then print (k.listed v.name)
  if fd = 0 then leaveInput o
  return r

def widthOf (k : Look) (s : FileStatus) : Nat :=
  if !k.tabs then 0
  else
    match s.content with
    | .file bytes => (toString (bytes.size + if k.numbers then 1 else 0)).length
    | _ => 19

def isOutput (k : Look) (s : FileStatus) : Job Bool := do
  if k.hidesLines || k.most.any (· < 2) || !s.content.isFile then return false
  else
    match ← ask (.statusOf 1) with
    | .ok t => return s.number = t.number
    | .error _ => return false

def searchInput (k : Look) (cs : List Compiled) (fd : Nat) (s : FileStatus) (name : String)
    (r : Results) : Job Results := do
  if ← isOutput k s then note k name "input file is also the output" r
  else searchOpen ⟨k, cs, name, widthOf k s⟩ fd r

def isDevice : Content → Bool
  | .device _ | .queue => true
  | _ => false

def below (directory name : String) : String :=
  if directory.isEmpty then name
  else if directory.endsWith "/" then directory ++ name
  else directory ++ "/" ++ name

/-- Searches what is at a path, and below. Names of inputs are shown as asked for, or else where a
directory is searched. -/
def searchPath (k : Look) (names : Option Bool) (s : Scope) (cs : List Compiled) :
    Nat → Bool → String → String → Results → Job Results
  | 0, _, _, _, r => return r
  | fuel + 1, isTop, path, shown, r => do
    if r.found && k.quiet then return r
    match ← ask (.status path (isTop || s.followsLinks)) with
    | .error fault => note k shown fault.text r
    | .ok status =>
      let isDirectory := status.content.isDirectory
      let rules := if isDirectory then s.innerDirectories else s.files
      if status.content.isLink || isDirectory && s.directories = .skip ||
          isLeftOut rules path isTop ||
          isDevice status.content && s.skipsDevices.getD (!isTop) then return r
      else if isDirectory && s.directories = .recurse then
        match ← ask (.list path) with
        | .error fault => note k shown fault.text r
        | .ok entries =>
          let mut r := r
          for entry in entries do
            r ← searchPath k (names <|> some true) s cs fuel false (below path entry)
              (below shown entry) r
          return r
      else
        match ← openInput path with
        | .error fault => note k shown fault.text r
        | .ok fd =>
          let k := { k with names := names.getD false }
          let r ← searchInput k cs fd status shown r
          closeInput path fd
          return r

def searchNamed (k : Look) (names : Option Bool) (s : Scope) (cs : List Compiled) (label : String)
    (path : String) (r : Results) : Job Results := do
  if r.found && k.quiet then return r
  if path == "-" then
    match ← ask (.statusOf 0) with
    | .error fault => note k label fault.text r
    | .ok status => searchInput { k with names := names.getD false } cs 0 status label r
  else searchPath k names s cs maxRounds true path path r

def patternTexts (found : List Chosen) (first : Option String) : Job (List String) := do
  let lines (text : String) : List String := text.splitOn "\n"
  let mut all := []
  for (key, value) in found do
    if key == "e" then all := all ++ lines (value.getD "")
    else if key == "f" then
      let path := value.getD ""
      match ← readInput path with
      | .ok text => all := all ++ (linesOf text).map (·.text)
      | .error fault => failWith 2 (path ++ ": " ++ fault.text)
  match first with
  | some text => return lines text
  | none => return all

inductive Matcher
  | basic
  | extended
  | fixed
  | rich
  deriving DecidableEq

def compileAll (m : Matcher) (ignoresCase : Bool) (f : Frame) : List String → Job (List Compiled)
  | [] => return []
  | text :: rest => do
    if m = .fixed then
      return Regex.fixed ignoresCase f text :: (← compileAll m ignoresCase f rest)
    else
      let d : Dialect :=
        if m = .extended || m = .rich then
          { Dialect.extended with
            leading := .ignored
            leadingInterval := .ignored
            closesLoosely := true
            bracesLoosely := true
            refusesBareClass := true
            ignoresCase }
        else { Dialect.plainBasic with refusesBareClass := true, ignoresCase }
      match Regex.readIn d false f text with
      | .error fault => failWith 2 fault.text
      | .ok (c, oddities) =>
        for o in oddities do tell ((← get).name ++ ": warning: " ++ o ++ "\n")
        return c :: (← compileAll m ignoresCase f rest)

def usageWith {α : Type} (status : Nat) : Job α := do
  let name := (← get).name
  tell ("Usage: " ++ name ++ " [OPTION]... PATTERNS [FILE]...\n")
  hint status

def contextOf (text : String) : Job Nat := do
  match integer? text with
  | some (.ofNat n) => return n
  | _ => failWith 2 (text ++ ": invalid context length argument")

structure Request where
  matcher : Option Matcher
  before : Option Nat
  after : Option Nat
  around : Option Nat
  isNumber : Bool
  most : Option Nat
  directories : Directories
  skipsDevices : Option Bool
  binary : String
  colored : Bool
  files : Rules
  innerDirectories : Rules

namespace Request

def start : Request :=
  ⟨none, none, none, none, false, none, .read, none, "binary", false, [], []⟩

def setMatcher (r : Request) (m : Matcher) : Job Request := do
  if r.matcher.any (· ≠ m) then failWith 2 "conflicting matchers specified"
  return { r with matcher := some m }

def add (r : Request) (key : String) (value : Option String) : Job Request := do
  let text := value.getD ""
  let next := { r with isNumber := false }
  match key with
  | "A" => return { next with after := some (← contextOf text) }
  | "B" => return { next with before := some (← contextOf text) }
  | "C" => return { next with around := some (← contextOf text) }
  | "D" =>
    match text with
    | "read" => return { next with skipsDevices := some false }
    | "skip" => return { next with skipsDevices := some true }
    | _ => failWith 2 "unknown devices method"
  | "E" => next.setMatcher .extended
  | "F" => next.setMatcher .fixed
  | "G" => next.setMatcher .basic
  | "P" => next.setMatcher .rich
  | "X" =>
    match text with
    | "grep" => next.setMatcher .basic
    | "egrep" | "awk" | "gawk" | "posixawk" => next.setMatcher .extended
    | "fgrep" => next.setMatcher .fixed
    | "perl" => next.setMatcher .rich
    | _ => failWith 2 ("invalid matcher " ++ text)
  | "m" =>
    match integer? text with
    | some n => return { next with most := if n < 0 then none else some n.toNat }
    | none => failWith 2 "invalid max count"
  | "d" =>
    let choices := [("read", Directories.read), ("recurse", .recurse), ("skip", .skip)]
    return { next with directories := ← choice (usageWith 1) "--directories" choices text }
  | "r" | "R" => return { next with directories := .recurse }
  | "u" =>
    tell ((← get).name ++ ": warning: --unix-byte-offsets (-u) is obsolete\n")
    return next
  | "a" => return { next with binary := "text" }
  | "I" => return { next with binary := "without-match" }
  | "binary" =>
    if ["binary", "text", "without-match"].contains text then return { next with binary := text }
    else failWith 2 "unknown binary-files type"
  | "color" =>
    return { next with colored := ["always", "yes", "force"].contains (text.map Char.toLower) }
  | "include" => return { next with files := r.files ++ [(true, text)] }
  | "exclude" => return { next with files := r.files ++ [(false, text)] }
  | "exclude-from" =>
    match ← readInput text with
    | .error fault => failWith 2 (text ++ ": " ++ fault.text)
    | .ok patterns =>
      return { next with files := r.files ++ (linesOf patterns).map fun l => (false, l.text) }
  | "exclude-dir" =>
    let bare := String.ofList (text.toList.reverse.dropWhile (· = '/')).reverse
    let pattern := if bare.isEmpty then text else bare
    return { next with innerDirectories := r.innerDirectories ++ [(false, pattern)] }
  | _ =>
    if key.length = 1 && key.all Char.isDigit then
      let before := if r.isNumber then r.around.getD 0 else 0
      return { next with around := some (10 * before + key.toNat?.getD 0), isNumber := true }
    else return next

end Request

def optionTable : OptionTable :=
  .ofTexts "0123456789A:B:C:D:EFGHILPTUVX:abcd:e:f:hiLlm:noPqRrsuvwxyZz"
    ["basic-regexp G", "extended-regexp E", "fixed-regexp F", "fixed-strings F", "perl-regexp P",
     "after-context= A", "before-context= B", "binary-files= binary", "binary U", "byte-offset b",
     "context= C", "color? color", "colour? color", "count c", "devices= D", "directories= d",
     "exclude= exclude", "exclude-from= exclude-from", "exclude-dir= exclude-dir", "file= f",
     "files-with-matches l", "files-without-match L", "group-separator= separator",
     "help help", "include= include", "ignore-case i", "no-ignore-case no-i", "initial-tab T",
     "label= label", "line-buffered buffered", "line-number n", "line-regexp x", "max-count= m",
     "no-filename h", "no-group-separator no-separator", "no-messages s", "null Z", "null-data z",
     "only-matching o", "quiet q", "recursive r", "dereference-recursive R", "regexp= e",
     "invert-match v", "silent q", "text a", "unix-byte-offsets u", "with-filename H",
     "word-regexp w"] true 2

def lookOf (found : List Chosen) (r : Request) (isVoid : Bool) : Look :=
  let has := Chosen.has found
  { inverted := has "v"
    counts := has "c"
    lists := (Chosen.last? found ["l", "L"]).map (· == "l")
    quiet := has "q"
    isVoid
    silent := has "s"
    numbers := has "n"
    offsets := has "b"
    onlyMatches := has "o"
    most := r.most
    context :=
      if (r.before <|> r.after <|> r.around).isNone then none
      else some ⟨(r.before <|> r.around).getD 0, (r.after <|> r.around).getD 0⟩
    separator :=
      match Chosen.last? found ["separator", "no-separator"] with
      | some "separator" => Chosen.value? found "separator"
      | some _ => none
      | none => some "--"
    mark := if has "z" then '\x00' else '\n'
    nullNames := has "Z"
    isText := r.binary == "text"
    skipsBinary := r.binary == "without-match"
    tabs := has "T"
    colored := r.colored
    names := false }

def hasVoidOutput : Job Bool := do
  match ← ask (.statusOf 1), ← ask (.status "/dev/null" true) with
  | .ok a, .ok b => return a.number = b.number
  | _, _ => return false

def search (name : String) (usual : Matcher) : Utility where
  name := name
  title := "grep (GNU grep) 3.11"
  operands := "[OPTION]... PATTERNS [FILE]..."
  work arguments := do
    let (found, operands) ←
      match optionTable.read arguments with
      | .ok (found, operands) =>
        OptionTable.answerAbout found
        pure (found, operands)
      | .error text => do
        complainWith 2 text
        usageWith 2
    let has := Chosen.has found
    if has "V" then tellVersion
    let mut r := Request.start
    for (key, value) in found do r ← r.add key value
    let isGiven := has "e" || has "f"
    let first ←
      if isGiven then pure none
      else
        match operands with
        | text :: _ => pure (some text)
        | [] => usageWith 2
    let texts ← patternTexts found first
    let paths := if isGiven then operands else operands.drop 1
    let k := lookOf found r (← hasVoidOutput)
    if (k.most = some 0 || texts.isEmpty && !k.inverted) && k.lists ≠ some false then throw 1
    let ignoresCase :=
      match Chosen.last? found ["i", "y", "no-i"] with
      | some "no-i" | none => false
      | some _ => true
    let frame := if has "x" then Frame.wholeLine else if has "w" then .wholeWord else .anywhere
    let cs ← compileAll (r.matcher.getD usual) ignoresCase frame texts
    let recurses := r.directories = .recurse
    let names :=
      match Chosen.last? found ["h", "H"] with
      | some "h" => some false
      | some _ => some true
      | none => if paths.length > 1 then some true else if recurses then none else some false
    let label := (Chosen.value? found "label").getD "(standard input)"
    let s : Scope := ⟨r.directories, has "R", r.skipsDevices, r.files, r.innerDirectories⟩
    let mut results : Results := ⟨false, false, false⟩
    if paths.isEmpty && recurses then
      match ← ask (.list ".") with
      | .ok entries =>
        for entry in entries do
          results ← searchPath k (names <|> some true) s cs maxRounds false entry entry results
      | .error _ => pure ()
    else
      for path in if paths.isEmpty then ["-"] else paths do
        results ← searchNamed k names s cs label path results
    throw (if results.failed && !(k.quiet && results.found) then 2
      else if results.found then 0 else 1)

def grep : Utility := search "grep" .basic

def oldSearch (name : String) (usual : Matcher) : Utility :=
  let u := search name usual
  { u with
    work := fun arguments => do
      modify fun d => { d with name := "grep" }
      u.work arguments }

def egrep : Utility := oldSearch "egrep" .extended

def fgrep : Utility := oldSearch "fgrep" .fixed

end ServerKeeper.Tool.Searching
