import ServerKeeper.Tool.Records.Evaluation
import ServerKeeper.Tool.Records.Grammar

namespace ServerKeeper.Tool.Records

open Job Host

structure Order where
  separator : Option String
  assignments : List (String × String)
  files : List String
  operands : List String
  vacuous : List String

inductive Refusal
  | usage
  | version
  | fault (text : String)

def usageText : String :=
  "Usage: mawk [Options] [Program] [file ...]\n\nProgram:\n" ++
  "    The -f option value is the name of a file containing program text.\n" ++
  "    If no -f option is given, a \"--\" ends option processing; the following\n" ++
  "    parameters are the program text.\n\nOptions:\n" ++
  "    -f program-file  Program  text is read from file instead of from the\n" ++
  "                     command-line.  Multiple -f options are accepted.\n" ++
  "    -F value         sets the field separator, FS, to value.\n" ++
  "    -v var=value     assigns value to program variable var.\n" ++
  "    --               unambiguous end of options.\n\n" ++
  "    Implementation-specific options are prefixed with \"-W\".  They can be\n" ++
  "    abbreviated:\n\n" ++
  "    -W version       show version information and exit.\n" ++
  "    -W compat        pre-POSIX 2001.\n" ++
  "    -W dump          show assembler-like listing of program and exit.\n" ++
  "    -W help          show this message and exit.\n" ++
  "    -W interactive   set unbuffered output, line-buffered input.\n" ++
  "    -W exec file     use file as program as well as last option.\n" ++
  "    -W posix         stricter POSIX checking.\n" ++
  "    -W random=number set initial random seed.\n" ++
  "    -W sprintf=number adjust size of sprintf buffer.\n" ++
  "    -W usage         show this message and exit.\n"

def settings : List String :=
  ["compat", "dump", "exec", "help", "interactive", "posix", "posix_space", "random", "repetitions",
   "sprintf", "traditional", "usage", "version"]

def setting? (text : String) : Option (Except Refusal Unit) :=
  let name := String.ofList (text.toList.takeWhile (· ≠ '='))
  match settings.find? (·.startsWith name) with
  | some "help" | some "usage" => some (.error .usage)
  | some "version" => some (.error .version)
  | some _ => some (.ok ())
  | none => none

def orderFrom : Nat → List String → Order → Except Refusal Order
  | 0, _, o => .ok o
  | fuel + 1, arguments, o =>
    match arguments with
    | [] => .ok o
    | first :: rest =>
      let valued (letter : String) (f : String → Except Refusal Order)
          (go : List String → Order → Except Refusal Order) : Except Refusal Order :=
        let value := (first.drop 2).toString
        if !value.isEmpty then f value >>= go rest
        else
          match rest with
          | value :: rest => f value >>= go rest
          | [] => .error (.fault ("option -" ++ letter ++ " lacks argument"))
      if first == "--" then .ok { o with operands := rest }
      else if first == "-" || !first.startsWith "-" then .ok { o with operands := arguments }
      else if first.startsWith "--" then
        match setting? (first.drop 2).toString with
        | some (.ok ()) => orderFrom fuel rest o
        | some (.error r) => .error r
        | none => .error (.fault ("not an option: " ++ first))
      else
        match first.toList.drop 1 with
        | 'F' :: _ => valued "F" (fun v => .ok { o with separator := some v }) (orderFrom fuel)
        | 'f' :: _ => valued "f" (fun v => .ok { o with files := o.files ++ [v] }) (orderFrom fuel)
        | 'v' :: _ =>
          let assign (v : String) : Except Refusal Order :=
            match Act.assignment? v with
            | some a => .ok { o with assignments := o.assignments ++ [a] }
            | none => .error (.fault ("improper assignment: -v " ++ v))
          valued "v" assign (orderFrom fuel)
        | 'W' :: _ =>
          let set (v : String) : Except Refusal Order :=
            match setting? v with
            | some (.error r) => .error r
            | some (.ok ()) => .ok o
            | none => .ok { o with vacuous := o.vacuous ++ [v] }
          valued "W" set (orderFrom fuel)
        | _ => .error (.fault ("not an option: " ++ first))

def programTexts (o : Order) : Job (Option (List (Option String × String) × List String)) := do
  if o.files.isEmpty then
    match o.operands with
    | text :: operands =>
      if text.startsWith "-" then return none else return some ([(none, text)], operands)
    | [] => return none
  else
    let mut texts := []
    for path in o.files do
      match ← readInput path with
      | .ok text => texts := (some path, text) :: texts
      | .error fault => failWith 2 ("cannot open \"" ++ path ++ "\" (" ++ fault.text ++ ")")
    return some (texts.reverse, o.operands)

def world (p : Program) (name : String) (operands : List String)
    (environment : List (String × String)) : World :=
  let table (entries : List (Key × String)) : Table :=
    entries.foldl (fun t (k, v) => t.set k (.input v)) .empty
  let arguments := name :: operands
  let numbered := arguments.zipIdx.map fun (a, i) => (Key.number i, a)
  let tables := p.names.map fun n =>
    if n == "ARGV" then table numbered
    else if n == "ENVIRON" then table (environment.map fun (k, v) => (.text k, v))
    else .empty
  let start (n : String) : Value :=
    match n with
    | "NR" | "FNR" | "NF" | "RSTART" => .number 0
    | "RLENGTH" => .number (-1)
    | "FS" | "OFS" => .text " "
    | "ORS" | "RS" => .text "\n"
    | "SUBSEP" => .text "\x1c"
    | "CONVFMT" | "OFMT" => .text "%.6g"
    | "ARGC" => .ofNat arguments.length
    | _ => .nothing
  { program := p
    values := p.names.map start
    tables
    locals := #[]
    record :=
      { text := ""
        isWhole := true
        isSplit := true
        fields := #[]
        separator := .blanks
        byLines := false }
    fieldSeparator := .blanks
    recordSeparator := .one '\n'
    main := none
    nextArgument := 1
    hadFile := false
    isDone := false
    inputs := []
    outputs := [((false, "/dev/stdout"), ⟨1, [], 0, none⟩)]
    inRange := Array.replicate p.ranges false
    seed := 0
    state := 1
    status := 0
    breath := 0 }

def awk : Utility where
  name := "awk"
  work arguments := do
    let name := ((← get).name.splitOn "/").getLast?.getD ""
    modify fun d => { d with name }
    match orderFrom (arguments.length + 1) arguments ⟨none, [], [], [], []⟩ with
    | .error .usage => print usageText
    | .error .version => print "mawk 1.3.4 20240123\n"
    | .error (.fault text) => failWith 2 text
    | .ok o =>
      for v in o.vacuous do
        tell (name ++ ": vacuous option: -W \"" ++ v ++ "\"\n")
      match ← programTexts o with
      | none => if arguments.isEmpty then tell usageText
      | some (texts, operands) =>
        match Program.read texts with
        | .error faults =>
          for text in faults do complainWith 2 text
          throw 2
        | .ok p =>
          let w := world p name operands (← get).environment
          let prepared : Act Unit := do
            for (name, value) in o.assignments do Act.assignArgument name value
            if let some s := o.separator then
              Act.setOverall (known "FS") (.text (Scan.plain s))
            Act.whole
          let (_, w) ← (ExceptT.run prepared).run w
          setStatus w.status

end ServerKeeper.Tool.Records
