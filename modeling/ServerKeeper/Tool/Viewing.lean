import ServerKeeper.Regex.Reading
import ServerKeeper.Shell.Arithmetic
import ServerKeeper.Tool.Lines
import ServerKeeper.Tool.Starting

namespace ServerKeeper.Tool.Viewing

open Job Host

def visible (c : Char) : String :=
  let n := c.toNat
  let plain (n : Nat) : String :=
    if n < 32 then "^" ++ (Char.ofNat (n + 64)).toString
    else if n = 127 then "^?"
    else (Char.ofNat n).toString
  if n ≥ 128 then "M-" ++ plain (n - 128) else plain n

structure Look where
  numbersAll : Bool
  numbersFilled : Bool
  squeezes : Bool
  ends : Bool
  tabs : Bool
  others : Bool

structure Position where
  number : Nat
  blanks : Nat
  isAtStart : Bool

def shownText (k : Look) (text : String) : String :=
  if !k.tabs && !k.others then text
  else
    String.join (text.toList.map fun c =>
      if c = '\t' then if k.tabs then "^I" else "\t"
      else if c = '\n' then "\n"
      else if k.others then visible c
      else c.toString)

def showLine (k : Look) (p : Position) (l : Line) : String × Position :=
  let isEmpty := l.text.isEmpty && l.isEnded && p.isAtStart
  let blanks := if isEmpty then p.blanks + 1 else 0
  if k.squeezes && blanks > 1 then ("", { p with blanks })
  else
    let numbers := p.isAtStart && (k.numbersFilled && !isEmpty || k.numbersAll && !k.numbersFilled)
    let number := if numbers then p.number + 1 else p.number
    let before := if numbers then rightAligned 6 (toString number) ++ "\t" else ""
    let body := shownText k l.text
    let body :=
      if k.ends && l.isEnded && body.endsWith "\r" then (body.dropEnd 1).toString ++ "^M" else body
    let text := before ++ body ++ if l.isEnded then if k.ends then "$\n" else "\n" else ""
    (text, ⟨number, blanks, l.isEnded⟩)

def showLines (k : Look) : List Line → Position → Job Position
  | [], p => return p
  | l :: rest, p => do
    let (text, p) := showLine k p l
    print text
    showLines k rest p

def copyOut (fd : Nat) : Nat → Job (Except FileFault Unit)
  | 0 => return .ok ()
  | fuel + 1 => do
    match ← ask (.read fd 65536) with
    | .error fault => return .error fault
    | .ok piece =>
      if piece.isEmpty then return .ok ()
      else
        print piece
        copyOut fd fuel

def isOwnOutput (fd : Nat) : Job Bool := do
  match ← ask (.statusOf fd), ← ask (.statusOf 1) with
  | .ok a, .ok b => return a.number = b.number && a.content.isFile && a.content.size > 0
  | _, _ => return false

def catEach (k : Look) (isPlain : Bool) : List String → Position → Job Unit
  | [], _ => pure ()
  | path :: rest, p => do
    match ← openInput path with
    | .error fault =>
      complain (about path fault)
      catEach k isPlain rest p
    | .ok fd =>
      if ← isOwnOutput fd then
        complain (ShownPath.plain path ++ ": input file is output file")
        catEach k isPlain rest p
      else if isPlain then
        match ← copyOut fd maxRounds with
        | .error fault => complain (about path fault)
        | .ok () => pure ()
        closeInput path fd
        catEach k isPlain rest p
      else
        let r ← readRest fd
        closeInput path fd
        match r with
        | .error fault =>
          complain (about path fault)
          catEach k isPlain rest p
        | .ok text => catEach k isPlain rest (← showLines k (linesOf text) p)

def cat : Utility where
  name := "cat"
  work arguments := do
    let t := OptionTable.ofTexts "AbeEnstTuv"
      ["number-nonblank b", "number n", "squeeze-blank s", "show-nonprinting v", "show-ends E",
       "show-tabs T", "show-all A"] true 1
    let (found, paths) ← t.parse arguments
    let any (keys : List String) : Bool := keys.any (Chosen.has found)
    let k : Look :=
      ⟨any ["n"], any ["b"], any ["s"], any ["A", "e", "E"], any ["A", "t", "T"],
        any ["A", "e", "t", "v"]⟩
    let isPlain := found.all fun (key, _) => key == "u"
    catEach k isPlain (if paths.isEmpty then ["-"] else paths) ⟨0, 0, true⟩

structure Share where
  ofLines : Bool
  amount : Nat
  isOther : Bool

def headBytes (fd : Nat) : Nat → Nat → Job (Except FileFault Unit)
  | 0, _ => return .ok ()
  | fuel + 1, left => do
    if left = 0 then return .ok ()
    match ← ask (.read fd (min left 8192)) with
    | .error fault => return .error fault
    | .ok piece =>
      if piece.isEmpty then return .ok ()
      else
        print piece
        headBytes fd fuel (left - piece.length)

def upToLines (mark : Char) (n : Nat) (text : String) : String × Nat :=
  let rec go : List String → Nat → List String → List String × Nat
    | [], left, acc => (acc, left)
    | [last], left, acc => if left = 0 then (acc, 0) else (last :: acc, left)
    | l :: rest, left, acc =>
      if left = 0 then (acc, 0) else go rest (left - 1) (l.push mark :: acc)
  let (acc, left) := go (text.splitOn mark.toString) n []
  (String.join acc.reverse, left)

/-- Reads up to so many lines and prints them. What was read too much of a file is given back. -/
def headLines (fd : Nat) (mark : Char) : Nat → Nat → Nat → Job (Except FileFault Unit)
  | 0, _, _ => return .ok ()
  | fuel + 1, left, position => do
    if left = 0 then return .ok ()
    match ← ask (.read fd 8192) with
    | .error fault => return .error fault
    | .ok piece =>
      if piece.isEmpty then return .ok ()
      else
        let (text, left) := upToLines mark left piece
        print text
        if left = 0 then
          if text.length < piece.length then let _ ← ask (.skipBack fd (piece.length - text.length))
          return .ok ()
        else headLines fd mark fuel left (position + piece.length)

def withoutEnd (s : Share) (mark : Char) (text : String) : String :=
  if s.ofLines then
    let ls := linesBy mark text
    String.join ((ls.take (ls.length - s.amount)).map (·.endedBy mark))
  else (text.take (text.length - s.amount)).toString

def nameOf (path : String) : String := if path == "-" then "standard input" else path

def banner (path : String) (isFirst : Bool) : String :=
  (if isFirst then "" else "\n") ++ "==> " ++ nameOf path ++ " <==\n"

def inputName (path : String) : String := ShownPath.quoted (nameOf path)

def headEach (s : Share) (mark : Char) (banners : Bool) : List String → Bool → Job Unit
  | [], _ => pure ()
  | path :: rest, isFirst => do
    match ← openInput path with
    | .error fault =>
      complain ("cannot open " ++ ShownPath.quoted path ++ " for reading: " ++ fault.text)
      headEach s mark banners rest isFirst
    | .ok fd =>
      if banners then print (banner path isFirst)
      let r ←
        if s.isOther then do
          let r ← readRest fd
          match r with
          | .ok text =>
            print (withoutEnd s mark text)
            pure (.ok ())
          | .error fault => pure (.error fault)
        else if s.ofLines then headLines fd mark maxRounds s.amount 0
        else headBytes fd maxRounds s.amount
      closeInput path fd
      match r with
      | .ok () => pure ()
      | .error fault => complain ("error reading " ++ inputName path ++ ": " ++ fault.text)
      headEach s mark banners rest false

structure HeadPlan where
  share : Share
  banners : Option Bool
  mark : Char

def amountComplaint (ofLines : Bool) : String :=
  "invalid number of " ++ (if ofLines then "lines" else "bytes")

def HeadPlan.ofOld (letters digits : List Char) (p : HeadPlan) : Job HeadPlan := do
  let rec go : List Char → HeadPlan → Option Char → Job (HeadPlan × Option Char)
    | [], p, unit => return (p, unit)
    | c :: rest, p, unit =>
      let counting (ofLines : Bool) : HeadPlan := { p with share := { p.share with ofLines } }
      match c with
      | 'c' => go rest (counting false) none
      | 'b' | 'k' | 'm' => go rest (counting false) (some c)
      | 'l' => go rest (counting true) unit
      | 'q' => go rest { p with banners := some false } unit
      | 'v' => go rest { p with banners := some true } unit
      | 'z' => go rest { p with mark := '\x00' } unit
      | c => misuse ("invalid trailing option -- " ++ c.toString)
  let (p, unit) ← go letters p none
  let text := String.ofList (digits ++ unit.toList)
  let amount ← sizeOf (amountComplaint p.share.ofLines) usualSuffixes text
  return { p with share := { p.share with amount } }

def HeadPlan.with (p : HeadPlan) (key value : String) : Job HeadPlan := do
  match key with
  | "n" | "c" =>
    let ofLines := key == "n"
    let isOther := value.startsWith "-"
    let text := if isOther then (value.drop 1).toString else value
    let size ← sizeOf (amountComplaint ofLines) usualSuffixes text
    return { p with share := ⟨ofLines, size, isOther⟩ }
  | "q" => return { p with banners := some false }
  | "v" => return { p with banners := some true }
  | "z" => return { p with mark := '\x00' }
  | key => misuse ("invalid trailing option -- " ++ key)

def head : Utility where
  name := "head"
  work arguments := do
    let t := OptionTable.ofTexts "c:n:qvz0123456789"
      ["bytes= c", "lines= n", "quiet q", "silent q", "verbose v", "zero-terminated z"] true 1
    let usual : HeadPlan := ⟨⟨true, 10, false⟩, none, '\n'⟩
    let (old, arguments) ←
      match arguments.map String.toList with
      | ('-' :: c :: cs) :: _ =>
        let digits := (c :: cs).takeWhile Char.isDigit
        if digits.isEmpty then pure (usual, arguments)
        else
          let letters := (c :: cs).drop digits.length
          pure (← HeadPlan.ofOld letters digits usual, arguments.drop 1)
      | _ => pure (usual, arguments)
    let (found, paths) ← t.parse arguments
    let p ← found.foldlM (fun p (key, value) => p.with key (value.getD "")) old
    headEach p.share p.mark (p.banners.getD (paths.length > 1))
      (if paths.isEmpty then ["-"] else paths) true

structure Counts where
  lines : Nat
  words : Nat
  chars : Nat
  bytes : Nat
  longest : Nat

namespace Counts

def plus (a b : Counts) : Counts :=
  ⟨a.lines + b.lines, a.words + b.words, a.chars + b.chars, a.bytes + b.bytes,
    max a.longest b.longest⟩

/-- How far a count has come: the counts, whether it is in a word, and the column. -/
structure Progress where
  counts : Counts
  inWord : Bool
  column : Nat

def step (p : Progress) (c : Char) : Progress :=
  let k := p.counts
  if c = '\n' || c = '\r' || c = '\x0c' then
    let lines := if c = '\n' then k.lines + 1 else k.lines
    ⟨{ k with lines, longest := max k.longest p.column }, false, 0⟩
  else if c = '\t' then ⟨k, false, p.column + (8 - p.column % 8)⟩
  else if c = ' ' then ⟨k, false, p.column + 1⟩
  else if c = '\x0b' then ⟨k, false, p.column⟩
  else
    let isShown := ' ' ≤ c && c ≤ '~'
    let begins := !p.inWord && isShown
    ⟨{ k with words := if begins then k.words + 1 else k.words }, p.inWord || isShown,
      if isShown then p.column + 1 else p.column⟩

def ofText (text : String) : Counts :=
  let n := text.length
  let p := text.foldl step ⟨⟨0, 0, n, n, 0⟩, false, 0⟩
  { p.counts with longest := max p.counts.longest p.column }

end Counts

def countLine (keys : List String) (width : Nat) (k : Counts) (path : String) : String :=
  let all := [("l", k.lines), ("w", k.words), ("m", k.chars), ("c", k.bytes), ("L", k.longest)]
  let shown := all.filterMap fun (key, n) =>
    if keys.contains key then some (rightAligned width (toString n)) else none
  " ".intercalate shown ++ (if path.isEmpty then "" else " " ++ ShownPath.plain path) ++ "\n"

def countWidth (paths : List String) (columns : Nat) : Job Nat := do
  if paths.isEmpty || paths.length = 1 && columns = 1 then return 1
  else
    let mut total := 0
    let mut least := 1
    let mut isFirstKnown := true
    for (path, i) in paths.zipIdx do
      match ← (if path == "-" then ask (.statusOf 0) else ask (.status path true)) with
      | .ok s => if s.content.isFile then total := total + s.content.size else least := 7
      | .error _ => if i = 0 then isFirstKnown := false
    return if isFirstKnown then max least (toString total).length else 1

inductive Summing
  | auto
  | always
  | only
  | never
  deriving BEq

inductive Naming
  | operands (paths : List String)
  /-- The names are in a file; their number is known in front if it is a plain one. -/
  | listed (place : String) (names : List String) (isPlain : Bool)

def namesIn (text : String) : List String := (linesBy '\x00' text).map (·.text)

def wc : Utility where
  name := "wc"
  work arguments := do
    let t := OptionTable.ofTexts "clLmw"
      ["bytes c", "chars m", "lines l", "words w", "debug debug", "files0-from= files",
       "max-line-length L", "total= total"] true 1
    let (found, operands) ← t.parse arguments
    let summing ← match Chosen.value? found "total" with
      | some text =>
        choice (hint 1) "--total"
          [("auto", Summing.auto), ("always", .always), ("only", .only), ("never", .never)] text
      | none => pure .auto
    let keys := (found.map (·.1)).filter fun key => ["l", "w", "m", "c", "L"].contains key
    let keys := if keys.isEmpty then ["l", "w", "c"] else keys.eraseDups
    let naming ← match Chosen.value? found "files", operands with
      | none, paths => pure (Naming.operands paths)
      | some _, path :: _ =>
        complain ("extra operand " ++ ShownPath.literal path)
        tell "file operands cannot be combined with --files0-from\n"
        hint 1
      | some place, [] =>
        match ← openInput place with
        | .error fault =>
          fail ("cannot open " ++ ShownPath.quoted place ++ " for reading: " ++ fault.text)
        | .ok fd =>
          let isPlain ← match ← ask (.statusOf fd) with
            | .ok s => pure s.content.isFile
            | .error _ => pure false
          match ← readRest fd with
          | .ok text => pure (.listed place (namesIn text) isPlain)
          | .error fault => fail (ShownPath.plain place ++ ": read error: " ++ fault.text)
    let names := match naming with
      | .operands [] => ["-"]
      | .operands paths => paths
      | .listed _ names _ => names
    let width ← match summing, naming with
      | .only, _ | _, .listed _ _ false => pure 1
      | _, _ => countWidth names keys.length
    let mut total : Counts := ⟨0, 0, 0, 0, 0⟩
    for (name, i) in names.zipIdx do
      match naming, name with
      | .listed "-" _ _, "-" =>
        complain "when reading file names from stdin, no file name of '-' allowed"
      | .listed place _ _, "" =>
        complain (ShownPath.plain place ++ ":" ++ toString (i + 1) ++
          ": invalid zero-length file name")
      | .operands _, "" => complain "invalid zero-length file name"
      | _, _ =>
        let isNameless := match naming with
          | .operands [] => true
          | _ => false
        let tellCounts (k : Counts) : Job Unit := do
          if summing != .only then
            print (countLine keys width k (if isNameless then "" else name))
        match ← readInput name with
        | .error fault =>
          complain (about (if isNameless then "standard input" else name) fault)
          if fault = .isADirectory then tellCounts ⟨0, 0, 0, 0, 0⟩
        | .ok text =>
          let k := Counts.ofText text
          total := total.plus k
          tellCounts k
    let shows := match summing with
      | .always | .only => true
      | .never => false
      | .auto => names.length > 1
    if shows then print (countLine keys width total (if summing == .only then "" else "total"))

/-- The places where a text stands in another one, from the last one back to the first one. No two
of them share a character. -/
def placesBack (part text : Array Char) : Nat → Nat → List (Nat × Nat)
  | 0, _ => []
  | start + 1, stop =>
    if start + part.size ≤ stop && text.extract start (start + part.size) == part then
      (start, start + part.size) :: placesBack part text start start
    else placesBack part text start stop

/-- The matches in a text, from the last start back to the first one; each one ends no later than
the one behind it starts. -/
def matchesBack (c : Regex.Compiled) (text : Array Char) : Nat → Nat → List (Nat × Nat)
  | 0, _ => []
  | start + 1, stop =>
    match c.matchAt? (text.extract 0 stop) start with
    | some m => (start, m.stop) :: matchesBack c text start start
    | none => matchesBack c text start stop

/-- The pieces between separators, from the last one to the first one. Each separator belongs to the
piece in front of it, or to the one behind it. -/
def piecesBack (text : Array Char) (isBefore : Bool) (places : List (Nat × Nat)) : List String :=
  let rec go : List (Nat × Nat) → Nat → Bool → List String
    | [], stop, _ => [Regex.slice text 0 stop]
    | (a, b) :: rest, stop, isLast =>
      if isBefore then Regex.slice text a stop :: go rest a false
      else if isLast && b = text.size then go rest b false
      else Regex.slice text b stop :: go rest b false
  go places text.size true

def tac : Utility where
  name := "tac"
  work arguments := do
    let t := OptionTable.ofTexts "brs:" ["before b", "regex r", "separator= s"] true 1
    let (found, paths) ← t.parse arguments
    let separator := (Chosen.value? found "s").getD "\n"
    let split : Array Char → List (Nat × Nat) ←
      if Chosen.has found "r" then
        if separator.isEmpty then fail "separator cannot be empty"
        match Regex.readLoose .anywhere false separator with
        | .error fault => fail fault.text
        | .ok c => pure fun text => matchesBack { c with isByLine := true } text text.size text.size
      else
        let part := if separator.isEmpty then #['\x00'] else separator.toList.toArray
        pure fun text => placesBack part text text.size text.size
    for path in if paths.isEmpty then ["-"] else paths do
      match ← openInput path with
      | .error fault =>
        complain ("failed to open " ++ ShownPath.quoted path ++ " for reading: " ++ fault.text)
      | .ok fd =>
        match ← readRest fd with
        | .error _ => complain (ShownPath.plain path ++ ": read error: Invalid argument")
        | .ok text =>
          let cs := text.toList.toArray
          for piece in piecesBack cs (Chosen.has found "b") (split cs) do print piece
        closeInput path fd

def rev : Utility where
  name := "rev"
  title := "rev from util-linux 2.39.3"
  operands := "[options] [file ...]"
  work arguments := do
    let t := OptionTable.ofTexts "hV0" ["zero 0"] true 1
    let (found, paths) ← t.parse arguments
    if Chosen.has found "V" then tellVersion
    if Chosen.has found "h" then tellUsage
    let mark := if Chosen.has found "0" then '\x00' else '\n'
    for path? in if paths.isEmpty then [none] else paths.map some do
      let path := path?.getD "stdin"
      match ← match path? with
        | some path => ask (.openFile path .toRead 0)
        | none => pure (.ok 0) with
      | .error fault => complain ("cannot open " ++ path ++ ": " ++ fault.text)
      | .ok fd =>
        let r ← eachLine fd mark fun l => do
          print (Line.endedBy ⟨String.ofList l.text.toList.reverse, l.isEnded⟩ mark)
          return true
        match r with
        | .ok _ => pure ()
        | .error fault => complain (path ++ ": " ++ fault.text)
        closeInput path fd

inductive Failing
  | warns
  | warnsButQueues
  | stops
  | stopsButQueues
  deriving BEq

def writeAll (failing : Option Failing) (text : String) :
    List (String × Nat) → Job (List (String × Nat))
  | [] => return []
  | (path, fd) :: rest => do
    match ← ask (.write fd text) with
    | .ok () => return (path, fd) :: (← writeAll failing text rest)
    | .error fault =>
      let sparesQueues := failing == some .warnsButQueues || failing == some .stopsButQueues
      if !(sparesQueues && fault = .brokenPipe) then
        if failing == some .stops || failing == some .stopsButQueues then fail (about path fault)
        complain (about path fault)
      writeAll failing text rest

def spread (failing : Option Failing) : Nat → List (String × Nat) → Job Unit
  | 0, _ => pure ()
  | fuel + 1, outputs => do
    match ← ask (.read 0 65536) with
    | .error fault => complain ("read error: " ++ fault.text)
    | .ok piece =>
      if !piece.isEmpty && !outputs.isEmpty then
        spread failing fuel (← writeAll failing piece outputs)

def tee : Utility where
  name := "tee"
  work arguments := do
    let t := OptionTable.ofTexts "aip" ["append a", "ignore-interrupts i", "output-error? p"] true 1
    let (found, paths) ← t.parse arguments
    let how := if Chosen.has found "a" then Opening.toAppend else Opening.toWrite
    let mut failing : Option Failing := none
    for (key, value) in found do
      if key == "p" then
        failing := some (← match value with
          | none => pure .warnsButQueues
          | some text =>
            choice (hint 1) "--output-error"
              [("warn", Failing.warns), ("warn-nopipe", .warnsButQueues), ("exit", .stops),
               ("exit-nopipe", .stopsButQueues)] text)
    if failing.isSome then ask (.react 13 .ignore)
    let stops := failing == some .stops || failing == some .stopsButQueues
    let mut outputs := [("standard output", 1)]
    for path in paths do
      match ← ask (.openFile path how 0o666) with
      | .ok fd => outputs := outputs ++ [(path, fd)]
      | .error fault => if stops then fail (about path fault) else complain (about path fault)
    spread failing maxRounds outputs

inductive Numbered
  | all
  | filled
  | none
  | matching (c : Regex.Compiled)

inductive Part
  | header
  | body
  | footer
  deriving DecidableEq

inductive Alignment
  | left
  | right
  | zeros

structure Numbering where
  chosen : Part → Numbered
  alignment : Alignment
  width : Nat
  separator : String
  start : Int
  step : Int
  group : Nat
  mark : String
  startsAgain : Bool

structure Count where
  part : Part
  number : Int
  blanks : Nat

namespace Numbering

def text (n : Numbering) (i : Int) : String :=
  let text := toString i
  match n.alignment with
  | .left => text ++ String.ofList (List.replicate (n.width - text.length) ' ')
  | .right => rightAligned n.width text
  | .zeros =>
    let (sign, digits) := if i < 0 then ("-", toString i.natAbs) else ("", text)
    sign ++ String.ofList (List.replicate (n.width - sign.length - digits.length) '0') ++ digits

def blank (n : Numbering) : String :=
  String.ofList (List.replicate (n.width + n.separator.length) ' ')

def part? (n : Numbering) (line : String) : Option Part :=
  if n.mark.length < 2 then none
  else if line == n.mark ++ n.mark ++ n.mark then some .header
  else if line == n.mark ++ n.mark then some .body
  else if line == n.mark then some .footer
  else none

def numbers (n : Numbering) (c : Count) (line : String) : Bool × Nat :=
  match n.chosen c.part with
  | .all =>
    if n.group ≤ 1 then (true, c.blanks)
    else if !line.isEmpty || c.blanks + 1 = n.group then (true, 0)
    else (false, c.blanks + 1)
  | .filled => (!line.isEmpty, c.blanks)
  | .none => (false, c.blanks)
  | .matching r => (r.isFoundIn line, c.blanks)

def shown (n : Numbering) (c : Count) (line : String) : Job Count := do
  match n.part? line with
  | some part =>
    print "\n"
    return { c with part, number := if n.startsAgain then n.start else c.number }
  | none =>
    let (isNumbered, blanks) := n.numbers c line
    if isNumbered then
      if c.number < -(Nat.pow 2 63 : Int) || Nat.pow 2 63 ≤ c.number then
        fail "line number overflow"
      print (n.text c.number ++ n.separator ++ line ++ "\n")
      return { c with number := c.number + n.step, blanks }
    else
      print (n.blank ++ line ++ "\n")
      return { c with blanks }

end Numbering

def numberedOf (part text : String) : Job (Option Numbered) := do
  match text.toList with
  | 'a' :: _ => return some .all
  | 't' :: _ => return some .filled
  | 'n' :: _ => return some .none
  | 'p' :: body =>
    let d := { Regex.Dialect.plainBasic with allowsEmptyRanges := true }
    match Regex.read d true (String.ofList body) with
    | .ok (c, _) => return some (.matching c)
    | .error fault => fail fault.text
  | _ =>
    complain ("invalid " ++ part ++ " numbering style: " ++ ShownPath.literal text)
    return none

def Numbering.with (n : Numbering) (key value : String) : Job (Option Numbering) := do
  let styled (part : Part) (name : String) : Job (Option Numbering) := do
    return (← numberedOf name value).map fun style =>
      { n with chosen := fun p => if p = part then style else n.chosen p }
  let greatest : Int := Nat.pow 2 63 - 1
  match key with
  | "h" => styled .header "header"
  | "b" => styled .body "body"
  | "f" => styled .footer "footer"
  | "v" =>
    let start ← numberWithin "invalid starting line number" value (-greatest - 1) greatest
    return some { n with start }
  | "i" =>
    let step ← numberWithin "invalid line number increment" value (-greatest - 1) greatest
    return some { n with step }
  | "p" => return some { n with startsAgain := false }
  | "l" =>
    let k ← numberWithin "invalid line number of blank lines" value 1 greatest
    return some { n with group := k.toNat }
  | "s" => return some { n with separator := value }
  | "w" =>
    let k ← numberWithin "invalid line number field width" value 1 (Nat.pow 2 31 - 1)
    return some { n with width := k.toNat }
  | "n" =>
    match value with
    | "ln" => return some { n with alignment := .left }
    | "rn" => return some { n with alignment := .right }
    | "rz" => return some { n with alignment := .zeros }
    | _ =>
      complain ("invalid line numbering format: " ++ ShownPath.literal value)
      return none
  | _ => return some { n with mark := if value.length = 1 then value ++ ":" else value }

def nl : Utility where
  name := "nl"
  work arguments := do
    let t := OptionTable.ofTexts "h:b:f:v:i:pl:s:w:n:d:"
      ["header-numbering= h", "body-numbering= b", "footer-numbering= f",
       "starting-line-number= v", "line-increment= i", "no-renumber p", "join-blank-lines= l",
       "number-separator= s", "number-width= w", "number-format= n", "section-delimiter= d"] true 1
    let (found, paths) ← t.parse arguments
    let mut n : Numbering :=
      { chosen := fun p => if p = .body then .filled else .none
        alignment := .right
        width := 6
        separator := "\t"
        start := 1
        step := 1
        group := 1
        mark := "\\:"
        startsAgain := true }
    let mut isSound := true
    for (key, value) in found do
      match ← n.with key (value.getD "") with
      | some m => n := m
      | none => isSound := false
    unless isSound do hint 1
    let mut c : Count := ⟨.body, n.start, 0⟩
    for path in if paths.isEmpty then ["-"] else paths do
      match ← readInput path with
      | .error fault => complain (about path fault)
      | .ok text =>
        for l in linesOf text do
          c ← n.shown c l.text

end ServerKeeper.Tool.Viewing
