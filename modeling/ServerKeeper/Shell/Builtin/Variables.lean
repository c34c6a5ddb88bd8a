import ServerKeeper.Shell.Builtin.Basic

namespace ServerKeeper.Shell.Builtin

open Action Host

def variableLines (before : String) (vs : List (String × Variable)) : String :=
  let sorted := vs.mergeSort fun a b => a.1 ≤ b.1
  String.join (sorted.map fun (name, v) =>
    before ++ name ++ v.value.elim "" (fun value => "=" ++ quotedText value) ++ "\n")

def binding? (argument : String) : Option (String × String) :=
  match argument.splitOn "=" with
  | name :: value :: rest => some (name, "=".intercalate (value :: rest))
  | _ => none

def mark (isMarked : Variable → Bool) (marked : Variable → Variable) (name : String) :
    Evaluator → Manner → List String → Action Nat := fun _ _ arguments => do
  let (found, arguments) ← options "p" arguments
  if !found.isEmpty || arguments.isEmpty then
    print (variableLines (name ++ " ") ((← get).bindings.filter fun (_, v) => isMarked v))
  else
    for a in arguments do
      let name ← match binding? a with
        | some (name, value) => do
          assignChecked name value false
          pure name
        | none => do
          if isName a then
            modify fun s =>
              if (s.bindings.lookup a).isSome then s
              else { s with bindings := s.bindings.put a ⟨none, false, false, false⟩ }
          else fail (a ++ ": bad variable name")
          pure a
      modify fun s => { s with bindings := s.bindings.change name marked }
  return 0

def exporting : Builtin :=
  ⟨"export", true, true,
    mark (·.isExported) (fun v => { v with isExported := true }) "export"⟩

def makingReadOnly : Builtin :=
  ⟨"readonly", true, true,
    mark (·.isReadOnly) (fun v => { v with isReadOnly := true }) "readonly"⟩

def localNames : Evaluator → Manner → List String → Action Nat := fun _ _ arguments => do
  if (← get).frames.isEmpty then fail "not in a function"
  for a in arguments do
    if a == "-" then
      modify fun s =>
        match s.frames with
        | [] => s
        | frame :: frames => { s with frames := (.options s.options :: frame) :: frames }
    else
      match binding? a with
      | some (name, value) =>
        keep name
        assign name value false
      | none =>
        if isName a then
          keep a
          modify fun s =>
            if (s.bindings.lookup a).isSome then s
            else { s with bindings := s.bindings.put a ⟨none, false, false, false⟩ }
        else fail (a ++ ": bad variable name")
  return 0

def unset : Evaluator → Manner → List String → Action Nat := fun _ _ arguments => do
  let (found, arguments) ← options "vf" arguments
  let kind := (found.getLast?.map (·.1)).getD 'v'
  for a in arguments do
    if kind = 'f' then modify fun s => { s with functions := s.functions.drop a }
    else if isName a then unassign a
    else fail (a ++ ": bad variable name")
  return 0

def setParameters (parameters : List String) : Action Unit :=
  modify fun s => { s with parameters, optionIndex := 1, optionOffset := none }

def setLetters (on : Bool) : List Char → Action Unit
  | [] => pure ()
  | c :: cs => do
    match optionOf? c with
    | some name => modify fun s => s.setOption name on
    | none => fail ("Illegal option -" ++ c.toString)
    setLetters on cs

def setNamed (on : Bool) (name : Option String) : Action Unit := do
  let s ← get
  match name with
  | none => print (if on then s.optionReport else s.optionCommands)
  | some name =>
    if (optionTable.lookup name).isSome then set (s.setOption name on)
    else fail ("Illegal option -o " ++ name)

/-- Goes over the letters of an argument; an `o` takes a name from the arguments behind it. -/
def setFrom (on : Bool) : List Char → List String → Action (List String)
  | [], arguments => return arguments
  | 'o' :: cs, arguments => do
    setNamed on arguments.head?
    setFrom on cs (arguments.drop 1)
  | c :: cs, arguments => do
    setLetters on [c]
    setFrom on cs arguments

def setOptions : Nat → List String → Action Unit
  | 0, _ => pure ()
  | fuel + 1, arguments => do
    let give (arguments : List String) : Action Unit :=
      if arguments.isEmpty then pure () else setParameters arguments
    match arguments with
    | [] => pure ()
    | first :: rest =>
      match first.toList with
      | ['-'] =>
        modify fun s => (s.setOption "xtrace" false).setOption "verbose" false
        give rest
      | ['-', '-'] => setParameters rest
      | '-' :: cs => setOptions fuel (← setFrom true cs rest)
      | '+' :: cs => setOptions fuel (← setFrom false cs rest)
      | _ => setParameters arguments

def setAll : Evaluator → Manner → List String → Action Nat := fun _ _ arguments => do
  if arguments.isEmpty then
    print (variableLines "" ((← get).bindings.filter fun (_, v) => v.value.isSome))
  else setOptions (arguments.length + 1) arguments
  return 0

def shift : Evaluator → Manner → List String → Action Nat := fun _ _ arguments => do
  let n ← match arguments with
    | [] => pure 1
    | a :: _ => natural a
  let s ← get
  if s.parameters.length < n then fail "can't shift that many"
  else
    setParameters (s.parameters.drop n)
    return 0

/-- Reads a line piece by piece. A backslash takes the meaning from the character behind it, and
joins lines. Gives the status too. -/
def readPieces (plain : Bool) : Nat → List Piece → Action (List Piece × Nat)
  | 0, ps => return (ps, 1)
  | fuel + 1, ps => do
    let part (cs : List Char) (split : Split) : Piece := ⟨String.ofList cs, false, split, false⟩
    let rec go : Nat → List Char → List Char → List Piece → List Piece × Bool
      | 0, _, _, ps => (ps, false)
      | fuel + 1, acc, cs, ps =>
        match cs with
        | [] => (part acc.reverse .anywhere :: ps, false)
        | '\x00' :: cs => go fuel acc cs ps
        | '\\' :: '\n' :: _ => (part acc.reverse .anywhere :: ps, true)
        | '\\' :: c :: cs =>
          go fuel [] cs (part [c] .nowhere :: part acc.reverse .anywhere :: ps)
        | '\n' :: _ | '\\' :: [] => (part acc.reverse .anywhere :: ps, false)
        | c :: cs => go fuel (c :: acc) cs ps
    match ← ask (.readLine 0) with
    | .error _ => return (ps, 1)
    | .ok line =>
      let isWhole := line.endsWith "\n"
      if plain then
        let cs := line.toList.filter fun c => c ≠ '\n' && c ≠ '\x00'
        return (part cs .anywhere :: ps, if isWhole then 0 else 1)
      else
        match go (line.length + 1) [] line.toList ps with
        | (ps, true) => readPieces plain fuel ps
        | (ps, false) => return (ps, if isWhole then 0 else 1)

def giveFields : List String → List (List Mark) → Action Unit
  | [], _ => pure ()
  | name :: names, fields => do
    assignChecked name (String.ofList ((fields.head?.getD []).map (·.1))) false
    giveFields names (fields.drop 1)

def read : Evaluator → Manner → List String → Action Nat := fun _ _ arguments => do
  let (found, names) ← options "p:r" arguments
  if names.isEmpty then fail "arg count"
  let (ps, status) ← readPieces (found.any (·.1 = 'r')) maxRounds []
  giveFields names (fieldsOf (separators (← get)) (some names.length) ps.reverse)
  return status

structure OptionStep where
  letter : Char
  value : Option String
  complaint : String
  index : Nat
  offset : Option Nat
  isDone : Bool

def nextOption (spec : List Char) (arguments : List String) (index : Nat) (offset : Option Nat) :
    OptionStep :=
  let silent := spec.head? = some ':'
  let before := (arguments[index - 2]?).getD ""
  let inside : Option (List Char) :=
    match offset with
    | some n => if index ≤ 1 || before.length < n then none else some (before.toList.drop n)
    | none => none
  let atEnd (index : Nat) : OptionStep := ⟨'?', none, "", index, none, true⟩
  let found (index : Nat) (c : Char) (rest : List Char) : OptionStep :=
    let offset (index : Nat) : Option Nat :=
      some (((arguments[index - 2]?).getD "").length - rest.length)
    match (spec.dropWhile (· ≠ c)).drop 1, spec.contains c && c ≠ ':' with
    | ':' :: _, true =>
      if rest.isEmpty then
        match arguments[index - 1]? with
        | some value => ⟨c, some value, "", index + 1, none, false⟩
        | none =>
          if silent then ⟨':', some c.toString, "", index, offset index, false⟩
          else ⟨'?', none, "No arg for -" ++ c.toString ++ " option\n", index, offset index, false⟩
      else ⟨c, some (String.ofList rest), "", index, none, false⟩
    | _, true => ⟨c, some "", "", index, offset index, false⟩
    | _, false =>
      if silent then ⟨'?', some c.toString, "", index, offset index, false⟩
      else ⟨'?', none, "Illegal option -" ++ c.toString ++ "\n", index, offset index, false⟩
  match inside with
  | some (c :: rest) => found index c rest
  | _ =>
    match (arguments[index - 1]?).map String.toList with
    | some ['-', '-'] => atEnd (index + 1)
    | some ('-' :: c :: rest) => found (index + 1) c rest
    | _ => atEnd index

def getOptions : Evaluator → Manner → List String → Action Nat := fun _ _ arguments => do
  match ← withoutOptions arguments with
  | spec :: name :: rest =>
    let s ← get
    let own := if rest.isEmpty then s.parameters else rest
    let (index, offset) :=
      if own.length + 1 < s.optionIndex then (1, none) else (s.optionIndex, s.optionOffset)
    let step := nextOption spec.toList own index offset
    tell step.complaint
    if !step.isDone then
      match step.value with
      | some value => assign "OPTARG" value false
      | none => unassign "OPTARG"
    modify fun s => s.withValue "OPTIND" (toString step.index) false
    assignChecked name step.letter.toString false
    modify fun s => { s with optionIndex := step.index, optionOffset := step.offset }
    return if step.isDone then 1 else 0
  | _ => fail "Usage: getopts optstring var [arg...]"

def variableBuiltins : List Builtin :=
  [exporting, makingReadOnly, ⟨"local", true, true, localNames⟩, ⟨"unset", true, false, unset⟩,
   ⟨"set", true, false, setAll⟩, ⟨"shift", true, false, shift⟩, ⟨"read", false, false, read⟩,
   ⟨"getopts", false, false, getOptions⟩]

end ServerKeeper.Shell.Builtin
