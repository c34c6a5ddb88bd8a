import ServerKeeper.Host.Accounts
import ServerKeeper.Shell.Format
import ServerKeeper.Shell.Pattern
import ServerKeeper.Tool.Making
import ServerKeeper.Tool.Versions

namespace ServerKeeper.Tool

open Job Host

def kindLetter : Content → Char
  | .file _ => '-'
  | .directory .. => 'd'
  | .link _ => 'l'
  | .queue => 'p'
  | .device _ | .descriptor _ => 'c'

def modeText (s : FileStatus) : String := (kindLetter s.content).toString ++ Permission.shown s.mode

def rawMode (s : FileStatus) : Nat :=
  s.mode +
    match s.content with
    | .file _ => 0o100000
    | .directory .. => 0o40000
    | .link _ => 0o120000
    | .queue => 0o10000
    | .device _ | .descriptor _ => 0o20000

def blocksOf (s : FileStatus) : Nat :=
  match s.content with
  | .file bytes => (bytes.size + 4095) / 4096 * 8
  | .directory .. => 8
  | _ => 0

def humanSize (base : Nat) (n : Nat) : String :=
  let units := if base = 1000 then "kMGTPEZY".toList else "KMGTPEZY".toList
  let rec go : Nat → Nat → List Char → String
    | _, _, [] => toString n
    | 0, _, _ => toString n
    | fuel + 1, power, u :: rest =>
      let tenths := (n * 10 + power - 1) / power
      if tenths < 100 then
        toString (tenths / 10) ++ "." ++ toString (tenths % 10) ++ u.toString
      else
        let whole := (n + power - 1) / power
        if whole < base then toString whole ++ u.toString else go fuel (power * base) rest
  if n < base then toString n else go 9 base units

inductive NameStyle
  | literal
  | escaped
  | questionable
  | quoted (mark : Char)
  | shell
  | shellAlways
  deriving DecidableEq

def escapedName (c : Char) (isBlankEscaped : Bool) : String :=
  let named := [('\x07', "\\a"), ('\x08', "\\b"), ('\t', "\\t"), ('\n', "\\n"), ('\x0b', "\\v"),
    ('\x0c', "\\f"), ('\r', "\\r"), ('\\', "\\\\")]
  match named.lookup c with
  | some text => text
  | none =>
    if c = ' ' && isBlankEscaped then "\\ "
    else if ShownPath.isPrintable c then c.toString
    else String.ofList (ShownPath.escaped c)

def NameStyle.show (style : NameStyle) (name : String) : String :=
  match style with
  | .literal => name
  | .escaped => String.join (name.toList.map (escapedName · true))
  | .quoted mark =>
    (String.join (mark.toString :: name.toList.map fun c =>
      if c = mark then "\\" ++ c.toString else escapedName c false)).push mark
  | .questionable =>
    String.ofList (name.toList.map fun c => if ShownPath.isPrintable c then c else '?')
  | .shell => ShownPath.plain name
  | .shellAlways => ShownPath.quoted name

namespace Listing

open ShownPath (quoted)

inductive Layout
  | single
  | long
  | columns
  | across
  | commas
  deriving DecidableEq

inductive Order
  | name
  | size
  | time
  | ending
  | version
  | width
  | none
  deriving DecidableEq

inductive Marks
  | none
  | slash
  | fileType
  | classify
  deriving DecidableEq

inductive Hidden
  | skipped
  | almostAll
  | all
  deriving DecidableEq

structure Look where
  layout : Layout
  order : Order
  reversed : Bool
  hidden : Hidden
  marks : Marks
  recursive : Bool
  showsDirectories : Bool
  numbers : Bool
  blocks : Bool
  owner : Bool
  group : Bool
  numericIds : Bool
  human : Option Nat
  sizeUnit : Nat
  blockUnit : Nat
  unitName : String
  author : Bool
  context : Bool
  style : NameStyle
  follows : Bool
  followsNamed : Bool
  time : Char
  timeFormats : String × String
  width : Nat
  ignored : List String
  skipsBackups : Bool
  directoriesFirst : Bool
  mark : String
  now : Moment

/-- A file in a listing: its name, what it is, where it points, and what that is. -/
structure Item where
  name : String
  status : FileStatus
  target : Option String
  aim : Option FileStatus

def Look.moment (k : Look) (s : FileStatus) : Moment :=
  match k.time with
  | 'c' => s.changed
  | 'u' => s.accessed
  | _ => s.modified

def ending (name : String) : String :=
  let cs := name.toList.reverse
  let after := cs.takeWhile (· ≠ '.')
  if after.length = cs.length then "" else String.ofList ('.' :: after.reverse)

def compareItems (k : Look) (a b : Item) : Ordering :=
  let byName := compare a.name b.name
  let first : Ordering :=
    match k.order with
    | .name | .none => .eq
    | .size => compare b.status.content.size a.status.content.size
    | .time => compare (k.moment b.status) (k.moment a.status)
    | .ending => compare (ending a.name) (ending b.name)
    | .version => Versions.compareNames a.name.toList b.name.toList
    | .width => compare a.name.length b.name.length
  first.then byName

def isDirectory (i : Item) : Bool :=
  i.status.content.isDirectory || i.aim.any (·.content.isDirectory)

def sortItems (k : Look) (items : List Item) : List Item :=
  if k.order = .none then items
  else
    let before (a b : Item) : Bool :=
      if k.directoriesFirst && isDirectory a != isDirectory b then isDirectory a
      else
        let o := compareItems k a b
        (if k.reversed then o.swap else o) != .gt
    items.mergeSort before

def markOf (m : Marks) (s : FileStatus) : String :=
  match m with
  | .none => ""
  | .slash => if s.content.isDirectory then "/" else ""
  | m =>
    match s.content with
    | .directory .. => "/"
    | .link _ => "@"
    | .queue => "|"
    | .file _ => if m = .classify && s.mode &&& 0o111 ≠ 0 then "*" else ""
    | _ => ""

def shownName (k : Look) (i : Item) : String :=
  let m := if k.layout = .long && i.target.isSome then "" else markOf k.marks i.status
  k.style.show i.name ++ m

def Look.amount (k : Look) (unit n : Nat) : String :=
  match k.human with
  | some base => humanSize base n
  | none => toString ((n + unit - 1) / unit) ++ k.unitName

def sizeText (k : Look) (s : FileStatus) : String :=
  match s.content with
  | .device _ | .descriptor _ => "1, 3"
  | c => k.amount k.sizeUnit c.size

def blocksText (k : Look) (blocks : Nat) : String := k.amount k.blockUnit (blocks * 512)

def timeText (k : Look) (s : FileStatus) : String :=
  let moment := k.moment s
  let halfYear : Int := 31556952 / 2 * 1000000000
  let isRecent := k.now - halfYear < moment && moment ≤ k.now
  Calendar.text (if isRecent then k.timeFormats.2 else k.timeFormats.1)
    (Calendar.parts moment 0 "UTC")

def widest (texts : List String) : Nat := texts.foldl (fun n t => max n t.length) 0

def beforeNames (k : Look) (items : List Item) : List String :=
  let numbers := items.map fun i => toString i.status.number
  let blocks := items.map fun i => blocksText k (blocksOf i.status)
  let wn := widest numbers
  let wb := widest blocks
  items.map fun i =>
    (if k.numbers then rightAligned wn (toString i.status.number) ++ " " else "") ++
      (if k.blocks then rightAligned wb (blocksText k (blocksOf i.status)) ++ " " else "") ++
      if k.context && k.layout ≠ .long then "? " else ""

/-- The column of owners or of groups: names stand to the left, and numbers without a name to the
right. -/
def Look.column (k : Look) (name? : Nat → Option String) (all : List Nat) (n : Nat) : String :=
  let name? := fun n => if k.numericIds then none else name? n
  let width := widest (all.map fun n => (name? n).getD (toString n))
  match name? n with
  | some name => leftAligned width name
  | none => rightAligned width (toString n)

def longLines (k : Look) (items : List Item) : List String :=
  let links := widest (items.map fun i => toString i.status.links)
  let sizes := widest (items.map fun i => sizeText k i.status)
  let owner := k.column (User.numbered? · |>.map (·.name)) (items.map (·.status.owner))
  let group := k.column Group.name? (items.map (·.status.group))
  (items.zip (beforeNames k items)).map fun (i, before) =>
    before ++ modeText i.status ++ " " ++ rightAligned links (toString i.status.links) ++ " " ++
      (if k.owner then owner i.status.owner ++ " " else "") ++
      (if k.group then group i.status.group ++ " " else "") ++
      (if k.author then owner i.status.owner ++ " " else "") ++
      (if k.context then "? " else "") ++
      rightAligned sizes (sizeText k i.status) ++ " " ++ timeText k i.status ++ " " ++
      shownName k i ++
      match i.target with
      | some t => " -> " ++ k.style.show t ++ i.aim.elim "" (markOf k.marks)
      | none => ""

def indent (from_ goal : Nat) : String :=
  let rec go : Nat → Nat → List Char → List Char
    | 0, _, acc => acc
    | fuel + 1, i, acc =>
      if goal ≤ i then acc
      else if (i + 1) / 8 < goal / 8 then go fuel (i + (8 - i % 8)) ('\t' :: acc)
      else go fuel (i + 1) (' ' :: acc)
  String.ofList (go (goal + 1) from_ []).reverse

def columnWidths? (texts : List String) (count width : Nat) (down : Bool) : Option (List Nat) :=
  let n := texts.length
  let rows := (n + count - 1) / count
  let columnOf (i : Nat) : Nat := if down then i / rows else i % count
  let widths := (List.range count).map fun c =>
    ((texts.zipIdx).filter fun (_, i) => columnOf i = c).foldl
      (fun w (t, _) => max w (t.length + if c + 1 = count then 0 else 2)) 3
  if widths.foldl (· + ·) 0 < width then some widths else none

def bestWidths (texts : List String) (width : Nat) (down : Bool) : Nat → List Nat
  | 0 => [0]
  | count + 1 =>
    match columnWidths? texts (count + 1) width down with
    | some ws => ws
    | none => bestWidths texts width down count

def table (texts : List String) (width : Nat) (down : Bool) : List String :=
  let n := texts.length
  let most := max 1 (min n (width / 3))
  let widths := bestWidths texts width down most
  let count := max 1 widths.length
  let rows := (n + count - 1) / count
  (List.range rows).map fun r =>
    let cells := (List.range count).filterMap fun c =>
      let i := if down then c * rows + r else r * count + c
      (texts[i]?).map fun t => (c, t)
    let rec line : List (Nat × String) → Nat → Nat → String
      | [], _, _ => ""
      | (c, t) :: rest, start, at_ =>
        let next := start + widths.getD c 0
        indent at_ start ++ t ++ line rest next (start + t.length)
    line cells 0 0

def withCommas (texts : List String) (width : Nat) : String :=
  let rec go : List String → Nat → Bool → String
    | [], _, _ => ""
    | t :: rest, at_, isFirst =>
      let last := rest.isEmpty
      let length := t.length + if last then 0 else 1
      if isFirst then t ++ (if last then "" else ",") ++ go rest (at_ + length) false
      else if at_ + 1 + length < width then
        " " ++ t ++ (if last then "" else ",") ++ go rest (at_ + 1 + length) false
      else "\n" ++ t ++ (if last then "" else ",") ++ go rest length false
  go texts 0 true

def printItems (k : Look) (items : List Item) : Job Unit := do
  let plain := (items.zip (beforeNames k items)).map fun (i, before) => before ++ shownName k i
  match k.layout with
  | .long => for line in longLines k items do print (line ++ k.mark)
  | .single => for line in plain do print (line ++ k.mark)
  | .columns => for line in table plain k.width true do print (line ++ "\n")
  | .across => for line in table plain k.width false do print (line ++ "\n")
  | .commas => unless items.isEmpty do print (withCommas plain k.width ++ "\n")

def Look.needsStatus (k : Look) : Bool :=
  k.layout = .long || k.order = .time || k.order = .size || k.blocks || k.recursive || k.numbers ||
    k.marks ≠ .none || k.directoriesFirst

def itemAt (k : Look) (isNamed : Bool) (path name : String) : Job (Except FileFault Item) := do
  let s ←
    if k.follows && !isNamed && !k.needsStatus then
      match ← ask (.status path true) with
      | .ok s => pure (.ok s)
      | .error _ => ask (.status path false)
    else if k.follows || isNamed && k.followsNamed then ask (.status path true)
    else if isNamed && k.layout ≠ .long && k.marks ≠ .classify && !k.showsDirectories then
      match ← ask (.status path true) with
      | .ok s => if s.content.isDirectory then pure (.ok s) else ask (.status path false)
      | .error _ => ask (.status path false)
    else ask (.status path false)
  match s with
  | .error fault => return .error fault
  | .ok s =>
    match s.content with
    | .link target =>
      let aim ← statusOf? path true
      return .ok ⟨name, s, some target, aim⟩
    | _ => return .ok ⟨name, s, none, none⟩

def isListed (k : Look) (name : String) : Bool :=
  let isIgnored := k.ignored.any fun p => Shell.Pattern.matchesText p name
  (k.hidden ≠ .skipped || !name.startsWith ".") && !isIgnored &&
    !(k.skipsBackups && name.endsWith "~")

def itemsOf (k : Look) (path : String) : List String → Job (List Item)
  | [] => return []
  | name :: rest => do
    let inner := if path.endsWith "/" then path ++ name else path ++ "/" ++ name
    match ← itemAt k false inner name with
    | .ok i => return i :: (← itemsOf k path rest)
    | .error fault =>
      complain ("cannot access " ++ quoted inner ++ ": " ++ fault.text)
      let bare ←
        if k.layout = .long then pure (.error fault)
        else itemAt { k with follows := false } false inner name
      match bare with
      | .ok i => return i :: (← itemsOf k path rest)
      | .error _ => itemsOf k path rest

def listAll (k : Look) (titles : Bool) : Nat → Bool → List String → Job Unit
  | 0, _, _ | _, _, [] => pure ()
  | fuel + 1, isFirst, path :: rest => do
    match ← ask (.list path) with
    | .error fault =>
      complainWith 2 ("cannot open directory " ++ quoted path ++ ": " ++ fault.text)
      listAll k titles fuel isFirst rest
    | .ok names =>
      if titles || k.recursive then
        print ((if isFirst then "" else "\n") ++ k.style.show path ++ ":\n")
      let names := if k.hidden = .all then "." :: ".." :: names else names
      let items ← itemsOf k path (names.filter (isListed k))
      let items := sortItems k items
      if k.layout = .long || k.blocks then
        let total := items.foldl (fun n i => n + blocksOf i.status) 0
        print ("total " ++ blocksText k total ++ k.mark)
      printItems k items
      let inner :=
        if k.recursive then
          let within (i : Item) : Bool :=
            i.status.content.isDirectory && i.name != "." && i.name != ".."
          (items.filter within).map fun i =>
            if path.endsWith "/" then path ++ i.name else path ++ "/" ++ i.name
        else []
      listAll k titles fuel false (inner ++ rest)

def timeFormats (found : List Chosen) : Job (String × String) := do
  if Chosen.last? found ["time-style", "full-time"] = some "full-time" then
    return ("%Y-%m-%d %H:%M:%S.%N %z", "%Y-%m-%d %H:%M:%S.%N %z")
  match Chosen.value? found "time-style" with
  | none | some "locale" | some "posix-full-iso" | some "posix-long-iso" =>
    return ("%b %e  %Y", "%b %e %H:%M")
  | some style =>
    if style.startsWith "+" then
      let format := (style.drop 1).toString
      match format.splitOn "\n" with
      | [a, b] => return (a, b)
      | _ => return (format, format)
    else
      match style with
      | "full-iso" => return ("%Y-%m-%d %H:%M:%S.%N %z", "%Y-%m-%d %H:%M:%S.%N %z")
      | "long-iso" => return ("%Y-%m-%d %H:%M", "%Y-%m-%d %H:%M")
      | "iso" => return ("%Y-%m-%d ", "%m-%d %H:%M")
      | _ =>
        complain ("invalid argument " ++ ShownPath.literal style ++ " for 'time style'")
        tell (String.join (["Valid arguments are:", "  - [posix-]full-iso", "  - [posix-]long-iso",
          "  - [posix-]iso", "  - [posix-]locale",
          "  - +FORMAT (e.g., +%H:%M) for a 'date'-style format"].map (·.push '\n')))
        hint 2

def chosen? {α : Type} [BEq α] (found : List Chosen) (key option : String)
    (choices : List (String × α)) : Job (Option α) := do
  match Chosen.value? found key with
  | none => return none
  | some text => return some (← choice (hint 1) option choices text)

def occasions : List (String × Option Bool) :=
  [("always", some true), ("yes", some true), ("force", some true), ("never", some false),
   ("no", some false), ("none", some false), ("auto", none), ("tty", none), ("if-tty", none)]

def orderOf (found : List Chosen) (isLong : Bool) : Job Order := do
  let named? ← chosen? found "sort" "--sort"
    [("none", Order.none), ("time", .time), ("size", .size), ("extension", .ending),
     ("version", .version), ("width", .width)]
  match Chosen.last? found ["S", "t", "U", "v", "X", "f", "sort"] with
  | some "S" => return .size
  | some "t" => return .time
  | some "U" | some "f" => return .none
  | some "v" => return .version
  | some "X" => return .ending
  | some _ => return named?.getD .name
  | none =>
    let hasTime := ["c", "u", "time"].any (Chosen.has found)
    return if !isLong && hasTime then .time else .name

def styleOf (found : List Chosen) (usual : NameStyle) : Job NameStyle := do
  let named? ← chosen? found "quoting-style" "--quoting-style"
    [("literal", (NameStyle.literal, 0)), ("shell", (.shell, 1)),
     ("shell-always", (.shellAlways, 2)),
     ("shell-escape", (.shell, 3)), ("shell-escape-always", (.shellAlways, 4)),
     ("c", (.quoted '"', 5)), ("c-maybe", (.literal, 6)), ("escape", (.escaped, 7)),
     ("locale", (.quoted '\'', 8)), ("clocale", (.quoted '"', 9))]
  match Chosen.last? found ["b", "N", "Q", "q", "quoting-style"] with
  | some "b" => return .escaped
  | some "N" => return .literal
  | some "Q" => return .quoted '"'
  | some "q" => return .questionable
  | some _ => return (named?.map (·.1)).getD .literal
  | none => return usual

def layoutOf (found : List Chosen) (usual : Layout) : Job Layout := do
  let named? ← chosen? found "format" "--format"
    [("verbose", Layout.long), ("long", .long), ("commas", .commas), ("horizontal", .across),
     ("across", .across), ("vertical", .columns), ("single-column", .single)]
  match Chosen.last? found ["l", "g", "n", "o", "C", "x", "m", "1", "full-time", "format"] with
  | none => return usual
  | some "C" => return .columns
  | some "x" => return .across
  | some "m" => return .commas
  | some "1" =>
    return if ["l", "g", "n", "o", "full-time"].any (Chosen.has found) then .long else .single
  | some "format" => return named?.getD .single
  | some _ => return .long

def marksOf (found : List Chosen) : Job Marks := do
  let occasion? ← chosen? found "F" "--classify" occasions
  let named? ← chosen? found "indicator-style" "--indicator-style"
    [("none", Marks.none), ("slash", .slash), ("file-type", .fileType), ("classify", .classify)]
  match Chosen.last? found ["F", "p", "file-type", "indicator-style"] with
  | none => return .none
  | some "F" => return if occasion?.getD (some true) = some true then .classify else .none
  | some "p" => return .slash
  | some "file-type" => return .fileType
  | some _ => return named?.getD .none

def timeOf (found : List Chosen) : Job Char := do
  let named? ← chosen? found "time" "--time"
    [("atime", 'u'), ("access", 'u'), ("use", 'u'), ("ctime", 'c'), ("status", 'c'),
     ("mtime", 'm'), ("modification", 'm'), ("birth", 'b'), ("creation", 'b')]
  match Chosen.last? found ["c", "u", "time"] with
  | some "c" => return 'c'
  | some "u" => return 'u'
  | some _ => return named?.getD 'm'
  | none => return 'm'

/-- A unit of sizes, and what is written behind sizes in it: the letters of a unit without a number.
-/
def unitOf (text : String) : Job (Nat × String) := do
  match readSize usualSuffixes text with
  | .ok 0 | .error .invalid => failWith 2 ("invalid --block-size argument '" ++ text ++ "'")
  | .error .tooLarge => failWith 2 ("--block-size argument '" ++ text ++ "' too large")
  | .ok n =>
    let isBare := !text.toList.head?.any Char.isDigit
    let shown :=
      match text.toList with
      | ['k'] => "K"
      | ['K', 'B'] => "kB"
      | _ => text
    return (n, if isBare then shown else "")

def numberOf? (found : List Chosen) (key what : String) : Job (Option Nat) := do
  match Chosen.value? found key with
  | none => return none
  | some text =>
    match natural? text with
    | some n => return some n
    | none => failWith 2 ("invalid " ++ what ++ ": " ++ ShownPath.literal text)

def optionTable : OptionTable :=
  .ofTexts "abcdfghiklmnopqrstuvw:xABCDFGHI:LNQRST:UXZ1"
    ["all a", "escape b", "directory d", "dired D", "full-time full-time",
     "group-directories-first first", "human-readable h", "inode i", "kibibytes k",
     "numeric-uid-gid n", "no-group G", "hide-control-chars q", "reverse r", "size s", "width= w",
     "almost-all A", "ignore-backups B", "classify? F", "file-type file-type", "si si",
     "dereference-command-line H", "dereference-command-line-symlink-to-dir dereference",
     "hide= hide", "ignore= I", "indicator-style= indicator-style", "dereference L", "literal N",
     "quote-name Q", "quoting-style= quoting-style", "recursive R", "format= format",
     "show-control-chars show", "sort= sort", "tabsize= T", "time= time", "time-style= time-style",
     "zero zero", "color? color", "hyperlink? hyperlink", "block-size= block-size", "context Z",
     "author author"] true 2

def lookOf (found : List Chosen) (usual : Layout) (usualStyle : NameStyle) : Job Look := do
  let has := Chosen.has found
  let layout ← layoutOf found usual
  let layout := if has "zero" && layout ≠ .long then .single else layout
  let width := (← numberOf? found "w" "line width").getD 80
  let _ ← numberOf? found "T" "tab size"
  let _ ← chosen? found "color" "--color" occasions
  let _ ← chosen? found "hyperlink" "--hyperlink" occasions
  let unit? ←
    match Chosen.value? found "block-size" with
    | none => pure none
    | some text => pure (some (← unitOf text))
  return {
    layout
    order := ← orderOf found (layout = .long)
    reversed := has "r"
    hidden :=
      match Chosen.last? found ["a", "A", "f"] with
      | some "A" => .almostAll
      | some _ => .all
      | none => .skipped
    marks := ← marksOf found
    recursive := has "R" && !has "d"
    showsDirectories := has "d"
    numbers := has "i"
    blocks := has "s"
    owner := !has "g"
    group := !has "o" && !has "G"
    numericIds := has "n"
    human := if has "h" then some 1024 else if has "si" then some 1000 else none
    sizeUnit := (unit?.map (·.1)).getD 1
    blockUnit := (unit?.map (·.1)).getD 1024
    unitName := (unit?.map (·.2)).getD ""
    author := has "author"
    context := has "Z"
    style := ← styleOf found usualStyle
    follows := has "L"
    followsNamed := has "H" || has "dereference"
    time := ← timeOf found
    timeFormats := ← timeFormats found
    width := if width = 0 then 1000000000 else width
    ignored := (found.filterMap fun (key, value) =>
      if key == "I" || key == "hide" && !has "a" && !has "A" then value else none)
    skipsBackups := has "B"
    directoriesFirst := has "first"
    mark := if has "zero" then "\x00" else "\n"
    now := ← ask .clock }

def listing (name : String) (usual : Layout) (style : NameStyle) : Utility where
  name := name
  work arguments := do
    let (found, paths) ← optionTable.parse arguments
    let k ← lookOf found usual style
    let named := if paths.isEmpty then ["."] else paths
    let mut items := []
    for path in named do
      match ← itemAt k true path path with
      | .ok i => items := items ++ [i]
      | .error fault => complainWith 2 ("cannot access " ++ quoted path ++ ": " ++ fault.text)
    let isOpened (i : Item) : Bool := i.status.content.isDirectory && !k.showsDirectories
    let alone := sortItems k (items.filter fun i => !isOpened i)
    let opened := sortItems k (items.filter isOpened)
    printItems k alone
    let titles := !(alone.isEmpty && named.length ≤ 1 && opened.length = 1)
    listAll k titles maxRounds alone.isEmpty (opened.map (·.name))

def ls : Utility := listing "ls" .single .literal

def dir : Utility := listing "dir" .columns .escaped

def vdir : Utility := listing "vdir" .long .escaped

end Listing

end ServerKeeper.Tool
