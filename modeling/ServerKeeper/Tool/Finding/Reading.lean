import ServerKeeper.Regex.Reading
import ServerKeeper.Tool.DateReading
import ServerKeeper.Tool.Finding.Criterion
import ServerKeeper.Tool.Finding.Place

namespace ServerKeeper.Tool.Finding

open Job Host
open Regex (Dialect)

inductive Grammar
  | loose
  | basic
  | extended

structure Draft where
  words : List Word
  following : Following
  isDeepFirst : Bool
  saysDeep : Bool
  least : Nat
  most : Option Nat
  fromDay : Bool
  warns : Bool
  grammar : Grammar
  isActive : Bool
  deletes : Bool
  prunes : Bool
  commands : Nat
  outlets : List (String × Nat)
  now : Moment

abbrev Reader := StateT Draft Job

namespace Reader

def job {α : Type} (a : Job α) : Reader α := StateT.lift a

def fail {α : Type} (text : String) : Reader α := job (Job.fail text)

def push (w : Word) : Reader Unit := modify fun d => { d with words := d.words ++ [w] }

def test (t : Test) : Reader Unit := push (.primary (.test t))

def act (a : Action) : Reader Unit := do
  modify fun d => { d with isActive := true }
  push (.primary (.action a))

def missing {α : Type} (name : String) : Reader α :=
  fail ("missing argument to \x60" ++ name ++ "'")

def invalid {α : Type} (name value : String) : Reader α :=
  fail ("invalid argument \x60" ++ value ++ "' to \x60" ++ name ++ "'")

def signed (text : String) : (Int → Bound) × String :=
  match text.toList with
  | '+' :: rest => (.above, String.ofList rest)
  | '-' :: rest => (.below, String.ofList rest)
  | _ => (.exactly, text)

def isDigits (text : String) : Bool := !text.isEmpty && text.all Char.isDigit

def bound? (text : String) : Option Bound :=
  let (how, digits) := signed text
  if isDigits digits then some (how (DateReading.natural digits)) else none

def duration? (unit : Int) (text : String) : Option Bound := do
  let (how, digits) := signed text
  match digits.splitOn "." with
  | [whole] => if isDigits whole then some (how (DateReading.natural whole * unit)) else none
  | [whole, places] =>
    if (whole.isEmpty || isDigits whole) && isDigits places then
      let n := DateReading.natural (whole ++ places)
      some (how (n * unit / Nat.pow 10 places.length))
    else none
  | _ => none

def kinds (name text : String) : Reader (List Char) := do
  let known := "bcdflpsD".toList
  let rec go : List Char → List Char → Reader (List Char)
    | [], _ =>
      fail ("Last file type in list argument to " ++ name ++
        " is missing, i.e., list is ending on: ','")
    | c :: rest, acc => do
      if !known.contains c then fail ("Unknown argument to " ++ name ++ ": " ++ c.toString)
      if acc.contains c then
        fail ("Duplicate file type '" ++ c.toString ++ "' in the argument list to " ++ name ++ ".")
      match rest with
      | [] => return c :: acc
      | ',' :: rest => go rest (c :: acc)
      | _ => fail ("Must separate multiple arguments to " ++ name ++ " using: ','")
  if text.isEmpty then fail ("Arguments to " ++ name ++ " should contain at least one letter")
  else go text.toList []

def size (text : String) : Reader Unit := do
  match text.toList.reverse with
  | [] => fail "invalid null argument to -size"
  | last :: before =>
    let unit? : Option (Nat × String) :=
      match last with
      | 'b' => some (512, String.ofList before.reverse)
      | 'c' => some (1, String.ofList before.reverse)
      | 'w' => some (2, String.ofList before.reverse)
      | 'k' => some (1024, String.ofList before.reverse)
      | 'M' => some (1048576, String.ofList before.reverse)
      | 'G' => some (1073741824, String.ofList before.reverse)
      | c => if c.isDigit then some (512, text) else none
    match unit? with
    | none => fail ("invalid -size type \x60" ++ last.toString ++ "'")
    | some (unit, digits) =>
      match bound? digits with
      | some b => test (.size unit b)
      | none => fail ("Invalid argument \x60" ++ text ++ "' to -size")

def mode (text : String) : Reader Unit := do
  let (fit, rest) :=
    match text.toList with
    | '-' :: rest => (Fit.all, String.ofList rest)
    | '/' :: rest => (Fit.some, String.ofList rest)
    | _ => (Fit.same, text)
  match Permission.read? rest with
  | none => fail ("invalid mode " ++ ShownPath.literal text)
  | some changes =>
    let plain := Permission.applyAll changes false 0 0
    let inner := Permission.applyAll changes true 0 0
    if fit = .some && plain = 0 then
      job (tell ((← job get).name ++ ": warning: you have specified a mode pattern " ++ text ++
        " (which is equivalent to /000). The meaning of -perm /000 has now been changed to be " ++
        "consistent with -perm -000; that is, while it used to match no files, it now matches " ++
        "all files.\n"))
      test (.mode .all 0 0)
    else test (.mode fit plain inner)

def pattern (text : String) (ignoresCase : Bool) : Reader Unit := do
  let within (d : Dialect) : Except Regex.Fault Regex.Compiled := do
    let (r, _) ← Regex.readIn { d with ignoresCase } false .wholeLine text
    return r
  let found :=
    match (← get).grammar with
    | .loose => Regex.readLoose .wholeLine ignoresCase text
    | .basic => within .basic
    | .extended => within .extended
  match found with
  | .ok r => test (.regex r)
  | .error fault =>
    fail ("failed to compile regular expression '" ++ text ++ "': " ++ fault.text)

def grammarNames : String :=
  "'findutils-default', 'ed', 'emacs', 'gnu-awk', 'grep', 'posix-awk', 'awk', 'posix-basic', " ++
  "'posix-egrep', 'egrep', 'posix-extended', 'posix-minimal-basic', 'sed'"

def chooseGrammar (name : String) : Reader Unit := do
  let g ←
    match name with
    | "findutils-default" | "emacs" => pure .loose
    | "ed" | "grep" | "posix-basic" | "posix-minimal-basic" | "sed" => pure Grammar.basic
    | "gnu-awk" | "posix-awk" | "awk" | "posix-egrep" | "egrep" | "posix-extended" => pure .extended
    | _ =>
      fail ("Unknown regular expression type '" ++ name ++ "'; valid types are " ++ grammarNames ++
        ".")
  modify fun d => { d with grammar := g }
  test .always

def statusOf (path : String) : Reader FileStatus := do
  match ← job (ask (.status path ((← get).following ≠ .never))) with
  | .ok s => return s
  | .error fault => fail (ShownPath.literal path ++ ": " ++ fault.text)

def outlet (path : String) : Reader Outlet := do
  if path == "/dev/stdout" then return none
  else if path == "/dev/stderr" then return some 2
  else
    match (← get).outlets.lookup path with
    | some fd => return some fd
    | none =>
      match ← job (ask (.openFile path .toWrite 0o666)) with
      | .ok fd =>
        modify fun d => { d with outlets := (path, fd) :: d.outlets }
        return some fd
      | .error fault => fail (ShownPath.literal path ++ ": " ++ fault.text)

def stamp? (c : Char) : Option Stamp :=
  match c with
  | 'a' => some .accessed
  | 'c' => some .changed
  | 'm' => some .modified
  | _ => none

def newerThan (name value : String) : Reader Unit := do
  match (name.drop 6).toString.toList with
  | [x, y] =>
    if x = 'B' || y = 'B' then
      job (complain "This system does not provide a way to find the birth time of a file.")
      fail ("invalid predicate \x60" ++ name ++ "'")
    match stamp? x, y with
    | some t, 't' =>
      match DateReading.read? (← get).now value with
      | some m => test (.newer t m)
      | none =>
        fail ("I cannot figure out how to interpret " ++ ShownPath.literal value ++
          " as a date or time")
    | some t, y =>
      match stamp? y with
      | some u => test (.newer t (u.of (← statusOf value)))
      | none => fail ("invalid predicate \x60" ++ name ++ "'")
    | none, _ => fail ("invalid predicate \x60" ++ name ++ "'")
  | _ => fail ("invalid predicate \x60" ++ name ++ "'")

def levels (name value : String) : Reader Nat := do
  if isDigits value then return (DateReading.natural value).toNat
  else
    fail ("Expected a positive decimal integer argument to " ++ name ++ ", but got " ++
      ShownPath.literal value)

def command (name : String) (allowsShared isInside asks : Bool) (arguments : List String) :
    Reader (List String) := do
  let rec go : List String → List String → Reader (List String × List String × Bool)
    | [], _ => missing name
    | ";" :: rest, acc => return (acc.reverse, rest, false)
    | "+" :: rest, acc =>
      if allowsShared && acc.head?.any fun a => (a.splitOn "\x7b\x7d").length > 1 then
        return (acc.reverse, rest, true)
      else go rest ("+" :: acc)
    | a :: rest, acc => go rest (a :: acc)
  let (words, rest, isShared) ← go arguments []
  if words.isEmpty then invalid name ";"
  if isShared then
    let marked := words.filter fun a => (a.splitOn "\x7b\x7d").length > 1
    if marked.length > 1 then
      fail ("Only one instance of \x7b\x7d is supported with " ++ name ++ " ... +")
    match marked with
    | [a] =>
      if a != "\x7b\x7d" then
        fail ("In '" ++ name ++ " ... \x7b\x7d +' the '\x7b\x7d' must appear by itself, but you " ++
          "specified '" ++ a ++ "'")
    | _ => pure ()
  let index := (← get).commands
  modify fun d => { d with commands := index + 1 }
  let words := if isShared then words.dropLast else words
  act (.run ⟨words, isShared, isInside, asks, index⟩)
  return rest

def printf (out : Outlet) (format : String) : Reader Unit := do
  let who := (← job get).name
  for (isWrong, text) in formatFaults (format.length + 1) format.toList do
    if isWrong then fail text else job (tell (who ++ ": " ++ text ++ "\n"))
  act (.printf out format)

def bare? (name : String) : Option (Reader Unit) :=
  match name with
  | "(" => some (push (.opening false))
  | ")" => some (push (.closing false))
  | "!" | "-not" => some (push (.negation name))
  | "-a" | "-and" => some (push (.joint .both name))
  | "-o" | "-or" => some (push (.joint .either name))
  | "," => some (push (.joint .sequence name))
  | "-true" | "-noleaf" | "-mount" | "-xdev" | "-x" | "-ignore_readdir_race"
  | "-noignore_readdir_race" => some (test .always)
  | "-false" => some (test .never)
  | "-nouser" => some (test .ownerless)
  | "-nogroup" => some (test .groupless)
  | "-readable" | "-writable" => some (test .always)
  | "-executable" => some (test .executable)
  | "-empty" => some (test .empty)
  | "-follow" => some do
    modify fun d => { d with following := .always }
    test .always
  | "-depth" | "-d" => some do
    modify fun d => { d with isDeepFirst := true, saysDeep := true }
    test .always
  | "-daystart" => some do
    modify fun d => { d with fromDay := true }
    test .always
  | "-warn" | "-nowarn" => some do
    modify fun d => { d with warns := name == "-warn" }
    test .always
  | "-print" => some (act (.print none "\n"))
  | "-print0" => some (act (.print none "\x00"))
  | "-ls" => some (act (.list none))
  | "-quit" => some (act .quit)
  | "-prune" => some do
    modify fun d => { d with prunes := true }
    push (.primary (.action .prune))
  | "-delete" => some do
    modify fun d => { d with isDeepFirst := true, deletes := true }
    act .delete
  | _ => none

def counted (name value : String) (f : Bound → Test) : Reader Unit := do
  match bound? value with
  | some b => test (f b)
  | none => invalid name value

def aged (name value : String) (unit : Int) (f : Bound → Test) : Reader Unit := do
  match duration? unit value with
  | some b => test (f b)
  | none => invalid name value

def owned (value kind : String) (known : Option Nat) (make : Bound → Test) : Reader Unit := do
  match known with
  | some n => test (make (.exactly n))
  | none =>
    if isDigits value then test (make (.exactly (DateReading.natural value)))
    else fail (ShownPath.literal value ++ " is not the name of " ++ kind)

def warnOfSlash (name value : String) : Reader Unit := do
  if (← get).warns && value.contains '/' then
    let other := if name == "-iname" then "-iwholename" else "-wholename"
    job (tell ((← job get).name ++ ": warning: '" ++ name ++ "' matches against basenames only, " ++
      "but the given pattern contains a directory separator ('/'), thus the expression will " ++
      "evaluate to false all the time.  Did you mean '" ++ other ++ "'?\n"))

def valued? (name value : String) : Option (Reader Unit) :=
  match name with
  | "-name" | "-iname" => some do
    warnOfSlash name value
    test (.name value (name == "-iname"))
  | "-path" | "-wholename" => some (test (.path value false))
  | "-ipath" | "-iwholename" => some (test (.path value true))
  | "-lname" => some (test (.target value false))
  | "-ilname" => some (test (.target value true))
  | "-regex" => some (pattern value false)
  | "-iregex" => some (pattern value true)
  | "-regextype" => some (chooseGrammar value)
  | "-type" => some do test (.kind (← kinds name value) false)
  | "-xtype" => some do test (.kind (← kinds name value) true)
  | "-size" => some (size value)
  | "-perm" => some (mode value)
  | "-user" => some (owned value "a known user" ((User.named? value).map (·.number)) .owner)
  | "-group" => some (owned value "an existing group" (Group.named? value) .group)
  | "-uid" => some (counted name value .owner)
  | "-gid" => some (counted name value .group)
  | "-links" => some (counted name value .links)
  | "-inum" => some (counted name value .number)
  | "-used" => some do
    match duration? 86400 value with
    | some b => test (.used b)
    | none => fail ("Invalid argument " ++ value ++ " to -used")
  | "-atime" => some (aged name value 86400 (.days .accessed))
  | "-ctime" => some (aged name value 86400 (.days .changed))
  | "-mtime" => some (aged name value 86400 (.days .modified))
  | "-amin" => some (aged name value 60 (.minutes .accessed))
  | "-cmin" => some (aged name value 60 (.minutes .changed))
  | "-mmin" => some (aged name value 60 (.minutes .modified))
  | "-newer" => some do test (.newer .modified (← statusOf value).modified)
  | "-anewer" => some do test (.newer .accessed (← statusOf value).modified)
  | "-cnewer" => some do test (.newer .changed (← statusOf value).modified)
  | "-samefile" => some do test (.number (.exactly (← statusOf value).number))
  | "-fstype" => some (test (if value == "ext4" then .always else .never))
  | "-context" => some (test .never)
  | "-maxdepth" => some do
    let n ← levels name value
    modify fun d => { d with most := some n }
    test .always
  | "-mindepth" => some do
    let n ← levels name value
    modify fun d => { d with least := n }
    test .always
  | "-printf" => some (printf none value)
  | "-fprint" => some do act (.print (← outlet value) "\n")
  | "-fprint0" => some do act (.print (← outlet value) "\x00")
  | "-fls" => some do act (.list (← outlet value))
  | name =>
    if name.startsWith "-newer" && name.length = 8 then some (newerThan name value)
    else none

def isCriterion (a : String) (isLeading : Bool) : Bool :=
  match a.toList with
  | ['-'] => false
  | '-' :: _ => true
  | [')'] | [','] => !isLeading
  | ['('] | ['!'] => true
  | _ => false

def refuseStart (a : String) (before : Option String) : Reader Unit := do
  job (complain ("paths must precede expression: \x60" ++ a ++ "'"))
  if let some name := before then
    match ← job (ask (.status a true)) with
    | .ok _ =>
      let who := (← job get).name
      job (tell (who ++ ": possible unquoted pattern after predicate \x60" ++ name ++ "'?\n"))
    | .error _ => pure ()
  job (Job.stop 1)

def criteria : Nat → Option String → List String → Reader Unit
  | 0, _, _ => pure ()
  | fuel + 1, before, arguments => do
    match arguments with
    | [] => pure ()
    | name :: rest =>
      if !isCriterion name false then refuseStart name before
      match bare? name with
      | some read =>
        read
        criteria fuel (some name) rest
      | none =>
        match name with
        | "-version" | "--version" => job Job.tellVersion
        | "-help" | "--help" => job Job.tellUsage
        | "-exec" => criteria fuel (some name) (← command name true false false rest)
        | "-execdir" => criteria fuel (some name) (← command name true true false rest)
        | "-ok" => criteria fuel (some name) (← command name false false true rest)
        | "-okdir" => criteria fuel (some name) (← command name false true true rest)
        | "-fprintf" =>
          match rest with
          | path :: format :: rest =>
            let out ← outlet path
            printf out format
            criteria fuel (some name) rest
          | path :: [] =>
            let _ ← outlet path
            invalid name path
          | [] => missing name
        | _ =>
          match valued? name "", rest with
          | none, _ => fail ("unknown predicate \x60" ++ name ++ "'")
          | some _, [] => missing name
          | some _, value :: rest =>
            match valued? name value with
            | some read => read
            | none => pure ()
            criteria fuel (some name) rest

def leading : List String → Following → Following × List String
  | "-P" :: rest, _ => leading rest .never
  | "-H" :: rest, _ => leading rest .atStart
  | "-L" :: rest, _ => leading rest .always
  | "-D" :: _ :: rest, f => leading rest f
  | "--" :: rest, f => (f, rest)
  | a :: rest, f => if a.startsWith "-O" then leading rest f else (f, a :: rest)
  | [], f => (f, [])

def endOfDay (m : Moment) : Moment :=
  let day : Moment := 86400 * 1000000000
  (m.fdiv day + 1) * day

def quest (arguments : List String) : Job Quest := do
  let (following, rest) := leading arguments .never
  let starts := rest.takeWhile fun a => !isCriterion a true
  let now ← ask .clock
  let start : Draft :=
    { words := []
      following
      isDeepFirst := false
      saysDeep := false
      least := 0
      most := none
      fromDay := false
      warns := false
      grammar := .loose
      isActive := false
      deletes := false
      prunes := false
      commands := 0
      outlets := []
      now }
  let criteriaTexts := rest.drop starts.length
  let ((), d) ← (criteria (criteriaTexts.length + 1) none criteriaTexts).run start
  match Word.whole d.words d.isActive with
  | .error why => Job.fail why
  | .ok criterion =>
    if d.deletes && d.prunes && !d.saysDeep then
      Job.fail ("The -delete action automatically turns on -depth, but -prune does nothing when " ++
        "-depth is in effect.  If you want to carry on anyway, just explicitly use the -depth " ++
        "option.")
    return {
      following := d.following
      starts := if starts.isEmpty then ["."] else starts
      isDeepFirst := d.isDeepFirst
      least := d.least
      most := d.most
      criterion
      now := if d.fromDay then endOfDay now else now }

end Reader

end ServerKeeper.Tool.Finding
