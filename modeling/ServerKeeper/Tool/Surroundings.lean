import ServerKeeper.Host.Accounts
import ServerKeeper.Tool.DateReading
import ServerKeeper.Tool.Lines
import ServerKeeper.Tool.Starting

namespace ServerKeeper.Tool.Surroundings

open Job Host

/-- The clock that the environment asks for: how far it is ahead, in seconds, and its name. -/
def zone (environment : List (String × String)) : Int × String :=
  match environment.lookup "TZ" with
  | none | some "" => (0, "UTC")
  | some text =>
    let cs := if text.startsWith ":" then text.toList.drop 1 else text.toList
    let (name, rest) :=
      match cs with
      | '<' :: more =>
        let name := more.takeWhile (· ≠ '>')
        (name, more.drop (name.length + 1))
      | cs =>
        let name := cs.takeWhile Char.isAlpha
        (name, cs.drop name.length)
    let (sign, digits) : Int × List Char :=
      match rest with
      | '-' :: rest => (1, rest)
      | '+' :: rest => (-1, rest)
      | rest => (-1, rest)
    let part (cs : List Char) : Int × List Char :=
      let ds := cs.takeWhile Char.isDigit
      (((String.ofList ds).toNat?).getD 0, cs.drop ds.length)
    let (h, rest) := part digits
    let (m, rest) := if rest.head? = some ':' then part (rest.drop 1) else (0, rest)
    let (s, _) := if rest.head? = some ':' then part (rest.drop 1) else (0, rest)
    if name.length < 3 then (0, "UTC")
    else (sign * (3600 * h + 60 * m + s), String.ofList name)

def internetFormats : List (String × String) :=
  [("date", "%Y-%m-%d"), ("seconds", "%Y-%m-%d %H:%M:%S%:z"),
   ("ns", "%Y-%m-%d %H:%M:%S.%N%:z")]

def commonFormats : List (String × String) :=
  [("hours", "%Y-%m-%dT%H%:z"), ("minutes", "%Y-%m-%dT%H:%M%:z"), ("date", "%Y-%m-%d"),
   ("seconds", "%Y-%m-%dT%H:%M:%S%:z"), ("ns", "%Y-%m-%dT%H:%M:%S,%N%:z")]

structure DateRequest where
  format : Option String
  wanted : Option String
  list : Option String
  model : Option String
  setting : Option String
  isUniversal : Bool
  asksExactness : Bool

namespace DateRequest

def setFormat (r : DateRequest) (format : String) : Job DateRequest := do
  if r.format.isSome then fail "multiple output formats specified"
  return { r with format := some format }

def add (r : DateRequest) (key : String) (value : Option String) : Job DateRequest := do
  match key with
  | "d" => return { r with wanted := value }
  | "f" => return { r with list := value }
  | "r" => return { r with model := value }
  | "s" => return { r with setting := value }
  | "u" => return { r with isUniversal := true }
  | "resolution" => return { r with asksExactness := true }
  | "R" => r.setFormat "%a, %d %b %Y %H:%M:%S %z"
  | "I" => r.setFormat (← choice (hint 1) "--iso-8601" commonFormats (value.getD "date"))
  | "rfc" => r.setFormat (← choice (hint 1) "--rfc-3339" internetFormats (value.getD ""))
  | _ => return r

def ways (r : DateRequest) : Nat :=
  [r.wanted.isSome, r.list.isSome, r.model.isSome, r.asksExactness].count true

def withOperands (r : DateRequest) (operands : List String) : Job DateRequest := do
  if r.ways > 1 then
    misuse "the options to specify dates for printing are mutually exclusive"
  if r.ways > 0 && r.setting.isSome then
    misuse "the options to print and set the time may not be used together"
  match operands with
  | _ :: extra :: _ => misuse ("extra operand " ++ ShownPath.literal extra)
  | [operand] =>
    if operand.startsWith "+" then r.setFormat (operand.drop 1).toString
    else if r.ways > 0 || r.setting.isSome then
      misuse ("the argument " ++ ShownPath.literal operand ++ " lacks a leading '+';\n" ++
        "when using an option to specify date(s), any non-option\n" ++
        "argument must be a format string beginning with '+'")
    else fail ("invalid date " ++ ShownPath.literal operand)
  | [] => return r

end DateRequest

def momentOf? (now : Moment) (offset : Int) (text : String) : Option Moment :=
  let ahead := offset * 1000000000
  let lower := text.toLower
  let has (part : String) : Bool := (lower.splitOn part).length > 1
  (DateReading.read? (now + ahead) text).map fun moment =>
    if has "@" || has "z" || has "utc" || has "gmt" then moment else moment - ahead

def date : Utility where
  name := "date"
  operands := "[OPTION]... [+FORMAT]"
  work arguments := do
    let t := OptionTable.ofTexts "d:f:I::r:Rs:u"
      ["date= d", "debug debug", "file= f", "iso-8601? I", "reference= r", "resolution resolution",
       "rfc-822 R", "rfc-email R", "rfc-2822 R", "rfc-3339= rfc", "set= s", "uct u", "utc u",
       "universal u"] true 1
    let (found, operands) ← t.parse arguments
    let nothing : DateRequest := ⟨none, none, none, none, none, false, false⟩
    let r ← found.foldlM (fun r (key, value) => r.add key value) nothing
    let r ← r.withOperands operands
    let now ← ask .clock
    let environment := (← get).environment
    let (offset, name) := if r.isUniversal then (0, "UTC") else zone environment
    let usual := if r.asksExactness then "%s.%N" else "%a %b %e %H:%M:%S %Z %Y"
    let format := r.format.getD usual
    let tellTime (moment : Moment) : Job Unit :=
      print (Calendar.text format (Calendar.parts moment offset name) ++ "\n")
    if let some path := r.list then
      match ← readInput path with
      | .error fault => fail (about path fault)
      | .ok text =>
        for l in linesOf text do
          match momentOf? now offset l.text with
          | some moment => tellTime moment
          | none => complain ("invalid date " ++ ShownPath.literal l.text)
    else if r.asksExactness then tellTime 1
    else if let some path := r.model then
      match ← ask (.status path true) with
      | .ok s => tellTime s.modified
      | .error fault => fail (about path fault)
    else if let some text := r.wanted.or r.setting then
      match momentOf? now offset text with
      | none => fail ("invalid date " ++ ShownPath.literal text)
      | some moment =>
        if r.setting.isSome then complain "cannot set date: Operation not permitted"
        tellTime moment
    else tellTime now

def machineFacts : List (String × String) :=
  [("s", "Linux"), ("n", "localhost"), ("r", "6.8.0"), ("v", "#1 SMP"), ("m", "x86_64"),
   ("p", "x86_64"), ("i", "x86_64"), ("o", "GNU/Linux")]

def uname : Utility where
  name := "uname"
  operands := "[OPTION]..."
  work arguments := do
    let t := OptionTable.ofTexts "asnrvmpio"
      ["all a", "kernel-name s", "sysname s", "nodename n", "kernel-release r", "release r",
       "kernel-version v", "machine m", "processor p", "hardware-platform i",
       "operating-system o"] true 1
    let (found, operands) ← t.parse arguments
    if let extra :: _ := operands then misuse ("extra operand " ++ ShownPath.literal extra)
    let keys := found.map (·.1)
    let keys := if keys.isEmpty then ["s"] else keys
    let shown := machineFacts.filterMap fun (key, fact) =>
      if keys.contains "a" || keys.contains key then some fact else none
    print (" ".intercalate shown ++ "\n")

def teller (name line : String) : Utility where
  name := name
  work arguments := do
    let t := OptionTable.ofTexts "" [] true 1
    let (_, operands) ← t.parse arguments
    if let extra :: _ := operands then misuse ("extra operand " ++ ShownPath.literal extra)
    print (line ++ "\n")

def whoami : Utility := teller "whoami" "root"

def arch : Utility := teller "arch" "x86_64"

def groups : Utility where
  name := "groups"
  operands := "[OPTION]... [USERNAME]..."
  work arguments := do
    let t := OptionTable.ofTexts "" [] true 1
    let (_, names) ← t.parse arguments
    if names.isEmpty then print "root\n"
    for name in names do
      match User.named? name with
      | some u => print (name ++ " : " ++ Group.shown u.group ++ "\n")
      | none => complain (ShownPath.literal name ++ ": no such user")

inductive Question
  | all
  | user
  | group
  | groups
  deriving BEq

def Question.answer (q : Question) (byName isZero : Bool) (u : User) : String :=
  let group := Group.shown u.group
  let number := toString u.group
  match q with
  | .all =>
    "uid=" ++ toString u.number ++ "(" ++ u.name ++ ") gid=" ++ number ++ "(" ++ group ++
      ") groups=" ++ number ++ "(" ++ group ++ ")\n"
  | .user => (if byName then u.name else toString u.number) ++ if isZero then "\x00" else "\n"
  | .group | .groups => (if byName then group else number) ++ if isZero then "\x00" else "\n"

def userOf? (text : String) : Option User :=
  if text.isEmpty then none
  else if text.startsWith "+" then (natural? text).bind User.numbered?
  else (User.named? text).or ((natural? text).bind User.numbered?)

def id : Utility where
  name := "id"
  operands := "[OPTION]... [USER]..."
  work arguments := do
    let t := OptionTable.ofTexts "agnruzGZ"
      ["context Z", "group g", "groups G", "name n", "real r", "user u", "zero z"] true 1
    let (found, operands) ← t.parse arguments
    let has := Chosen.has found
    if has "Z" then fail "--context (-Z) works only on an SELinux-enabled kernel"
    let asked := [("u", Question.user), ("g", .group), ("G", .groups)].filter fun p => has p.1
    let q ← match asked with
      | [] => pure Question.all
      | [(_, q)] => pure q
      | _ => fail "cannot print \"only\" of more than one choice"
    if q == .all && (has "n" || has "r") then
      fail "cannot print only names or real IDs in default format"
    if q == .all && has "z" then fail "option --zero not permitted in default format"
    let tellOf (u : User) : Job Unit := print (q.answer (has "n") (has "z") u)
    if operands.isEmpty then (User.numbered? 0).forM tellOf
    for name in operands do
      match userOf? name with
      | some u =>
        tellOf u
        if q == .groups && has "z" && operands.length > 1 then print "\x00"
      | none =>
        complain (ShownPath.literal name ++ ": no such user" ++
          if name.isEmpty then ": No such file or directory" else "")

def pwd : Utility where
  name := "pwd"
  operands := "[OPTION]..."
  work arguments := do
    let t := OptionTable.ofTexts "LP" ["logical L", "physical P"] true 1
    let (found, operands) ← t.parse arguments
    unless operands.isEmpty do tell ((← get).name ++ ": ignoring non-option arguments\n")
    let logical ←
      if Chosen.last? found ["L", "P"] = some "L" then
        match (← get).environment.lookup "PWD" with
        | some path =>
          if !path.startsWith "/" then pure none
          else
            match ← ask (.status path true), ← ask (.status "." true) with
            | .ok a, .ok b => pure (if a.number = b.number then some path else none)
            | _, _ => pure none
        | none => pure none
      else pure none
    match logical with
    | some path => print (path ++ "\n")
    | none =>
      match ← ask .here with
      | some path => print (path ++ "\n")
      | none => fail "couldn't find directory entry in '..' with matching i-node"

def tty : Utility where
  name := "tty"
  operands := "[OPTION]..."
  work arguments := do
    let t := OptionTable.ofTexts "s" ["silent s", "quiet s"] true 2
    let (found, operands) ← t.parse arguments
    if let extra :: _ := operands then misuseWith 2 ("extra operand " ++ ShownPath.literal extra)
    unless Chosen.has found "s" do print "not a tty\n"
    setStatus 1

def hostname : Utility where
  name := "hostname"
  title := "hostname 3.23"
  operands := "[-b] \x7bhostname|-F file\x7d         set host name (from file)"
  work arguments := do
    answerSole arguments
    print "localhost\n"

def nproc : Utility where
  name := "nproc"
  operands := "[OPTION]..."
  work arguments := do
    let t := OptionTable.ofTexts "" ["all all", "ignore= ignore"] true 1
    let (found, operands) ← t.parse arguments
    if let some text := Chosen.value? found "ignore" then
      let _ ← numberWithin "invalid number" text 0 (Nat.pow 2 64 - 1)
    if let extra :: _ := operands then misuse ("extra operand " ++ ShownPath.literal extra)
    print "1\n"

def logname : Utility where
  name := "logname"
  operands := "[OPTION]"
  work arguments := do
    let t := OptionTable.ofTexts "" [] true 1
    let (_, operands) ← t.parse arguments
    if let extra :: _ := operands then misuse ("extra operand " ++ ShownPath.literal extra)
    fail "no login name"

def nobodyHere (name : String) : Utility where
  name
  work arguments := do
    let t := OptionTable.ofTexts "" [] true 1
    let (_, operands) ← t.parse arguments
    if let _ :: extra :: _ := operands then
      misuse ("extra operand " ++ ShownPath.literal extra)

def users : Utility := nobodyHere "users"

def who : Utility := nobodyHere "who"

def sync : Utility where
  name := "sync"
  operands := "[OPTION] [FILE]..."
  work arguments := do
    let t := OptionTable.ofTexts "df" ["data d", "file-system f"] true 1
    let (found, paths) ← t.parse arguments
    if Chosen.has found "d" && Chosen.has found "f" then
      fail "cannot specify both --data and --file-system"
    if Chosen.has found "d" && paths.isEmpty then fail "--data needs at least one argument"
    for path in paths do
      match ← ask (.status path true) with
      | .ok _ => pure ()
      | .error fault => complain ("error opening " ++ ShownPath.quoted path ++ ": " ++ fault.text)

def isProgram (path : String) : Job Bool := do
  match ← ask (.status path true) with
  | .ok s => return s.content.isFile && s.mode &&& 0o111 ≠ 0
  | .error _ => return false

def which : Utility where
  name := "which"
  work arguments := do
    let options := arguments.takeWhile fun a => a.startsWith "-" && a.length > 1 && a != "--"
    let names := arguments.drop options.length
    let names := if names.head? = some "--" then names.drop 1 else names
    for o in options do
      for c in (o.drop 1).toString.toList do
        if c != 'a' && c != 's' then
          tell ("Illegal option -" ++ c.toString ++ "\n")
          print "Usage: /usr/bin/which [-as] args\n"
          throw 2
    let isAll := options.any (·.contains 'a')
    let isSilent := options.any (·.contains 's')
    if names.isEmpty then throw 1
    let path := ((← get).environment.lookup "PATH").getD ""
    for name in names do
      let files :=
        if name.contains '/' then [name]
        else (path.splitOn ":").map fun place =>
          (if place.isEmpty then "." else place) ++ "/" ++ name
      let mut there := []
      for file in files do
        if ← isProgram file then there := there ++ [file]
      if there.isEmpty then setStatus 1
      unless isSilent do
        for file in if isAll then there else there.take 1 do print (file ++ "\n")

end ServerKeeper.Tool.Surroundings
