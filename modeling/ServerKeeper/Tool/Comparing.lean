import ServerKeeper.Tool.Dumping
import ServerKeeper.Tool.Viewing

namespace ServerKeeper.Tool.Comparing

open Job Host

def refuse {α : Type} (text : String) : Job α := do
  let name := (← get).name
  complainWith 2 text
  failWith 2 ("Try '" ++ name ++ " --help' for more information.")

def optionsOf (t : OptionTable) (arguments : List String) : Job (List Chosen × List String) := do
  match t.read arguments with
  | .ok (found, operands) =>
    OptionTable.answerAbout found
    return (found, operands)
  | .error text => refuse text

def orTrouble (a : Job Unit) : Job Unit := do
  let r ← attempt a
  flush
  match (← get).lost with
  | some fault =>
    modify fun d => { d with lost := none }
    failWith 2 ("standard output: " ++ fault.text)
  | none =>
    match r with
    | .ok () => pure ()
    | .error status => throw status

inductive Report
  | first
  | all
  | endings
  | nothing
  deriving DecidableEq

structure Manner where
  report : Report
  showsBytes : Bool
  most : Option Nat
  names : String × String
  width : Nat

structure Progress where
  count : Nat
  lines : Nat
  isAtLineStart : Bool
  differs : Bool

def readBlock (fd : Nat) : Nat → Nat → List String → Job (Except FileFault String)
  | 0, _, pieces => return .ok (String.join pieces.reverse)
  | fuel + 1, size, pieces => do
    if size = 0 then return .ok (String.join pieces.reverse)
    else
      match ← ask (.read fd size) with
      | .error fault => return .error fault
      | .ok piece =>
        if piece.isEmpty then return .ok (String.join pieces.reverse)
        else readBlock fd fuel (size - piece.length) (piece :: pieces)

def octal (c : Char) : String := rightAligned 3 (String.ofList (Nat.toDigits 8 c.toNat))

def padded (width : Nat) (text : String) : String :=
  text ++ String.ofList (List.replicate (width - text.length) ' ')

def Manner.pairText (m : Manner) (place : Nat) (a b : Char) : String :=
  rightAligned m.width (toString place) ++ " " ++
    if m.showsBytes then
      octal a ++ " " ++ padded 4 (Viewing.visible a) ++ " " ++ octal b ++ " " ++ Viewing.visible b
    else octal a ++ " " ++ octal b

def Manner.firstText (m : Manner) (place line : Nat) (a b : Char) : String :=
  m.names.1 ++ " " ++ m.names.2 ++ " differ: " ++ (if m.showsBytes then "byte " else "char ") ++
    toString place ++ ", line " ++ toString line ++
    if m.showsBytes then
      " is " ++ octal a ++ " " ++ Viewing.visible a ++ " " ++ octal b ++ " " ++ Viewing.visible b
    else ""

def Manner.endText (m : Manner) (name : String) (p : Progress) : String :=
  if p.count = 0 then "EOF on " ++ name ++ " which is empty"
  else
    "EOF on " ++ name ++ " after byte " ++ toString p.count ++
      if m.report ≠ .first then ""
      else if p.isAtLineStart then ", line " ++ toString p.lines
      else ", in line " ++ toString (p.lines + 1)

/-- Compares bytes as far as there are some of both inputs. Tells whether it is worth going on. -/
def comparePairs (m : Manner) : List (Char × Char) → Progress → Job (Progress × Bool)
  | [], p => return (p, true)
  | (a, b) :: rest, p => do
    if a ≠ b then
      match m.report with
      | .first =>
        print (m.firstText (p.count + 1) (p.lines + 1) a b ++ "\n")
        return ({ p with differs := true }, false)
      | .endings | .nothing => return ({ p with differs := true }, false)
      | .all => print (m.pairText (p.count + 1) a b ++ "\n")
    let isEnd := a = '\n'
    comparePairs m rest
      { p with
        count := p.count + 1
        lines := if isEnd then p.lines + 1 else p.lines
        isAtLineStart := isEnd
        differs := p.differs || a ≠ b }

def blockSize : Nat := 4096

def compareRest (m : Manner) (one other : Nat) : Nat → Option Nat → Progress → Job Bool
  | 0, _, p => return !p.differs
  | fuel + 1, left, p => do
    let size := left.elim blockSize (min blockSize)
    let readFrom (fd : Nat) (name : String) : Job String := do
      match ← readBlock fd (size + 1) size [] with
      | .ok text => return text
      | .error fault => failWith 2 (name ++ ": " ++ fault.text)
    let a ← readFrom one m.names.1
    let b ← readFrom other m.names.2
    let (p, goesOn) ← comparePairs m (a.toList.zip b.toList) p
    if !goesOn then return false
    else if a.length ≠ b.length then
      if m.report ≠ .nothing then
        let name := if b.length < a.length then m.names.2 else m.names.1
        tell ("cmp: " ++ m.endText name p ++ "\n")
      return false
    else if a.length < size || size = 0 then return !p.differs
    else compareRest m one other fuel (left.map (· - size)) p

def skip (fd count : Nat) : Job Unit := do
  let _ ← readBlock fd (count + 1) count []

def skips? (text : String) : Option (Nat × Nat) := do
  match text.splitOn ":" with
  | [both] =>
    let n ← Dumping.quantity? both
    return (n, n)
  | [one, other] => return (← Dumping.quantity? one, ← Dumping.quantity? other)
  | _ => none

/-- The first and the second input, and how many bytes of each are passed over. -/
structure Inputs where
  names : String × String
  skipped : Nat × Nat

def inputsOf (found : List Chosen) (last : String) (operands : List String) : Job Inputs := do
  let quantity (text : String) : Job Nat := do
    match Dumping.quantity? text with
    | some n => return n
    | none => refuse ("invalid --ignore-initial value '" ++ text ++ "'")
  let (one, other) ←
    match Chosen.value? found "i" with
    | none => pure (0, 0)
    | some text =>
      match skips? text with
      | some both => pure both
      | none => refuse ("invalid --ignore-initial value '" ++ text ++ "'")
  match operands with
  | [] => refuse ("missing operand after '" ++ last ++ "'")
  | [name] => return ⟨(name, "-"), (one, other)⟩
  | [name, second] => return ⟨(name, second), (one, other)⟩
  | [name, second, n] => return ⟨(name, second), (max one (← quantity n), other)⟩
  | [name, second, n, k] =>
    return ⟨(name, second), (max one (← quantity n), max other (← quantity k))⟩
  | _ :: _ :: n :: k :: extra :: _ =>
    let _ ← quantity n
    let _ ← quantity k
    refuse ("extra operand '" ++ extra ++ "'")

def open_ (isQuiet : Bool) (name : String) : Job (Nat × FileStatus) := do
  let giveUp (fault : FileFault) : Job (Nat × FileStatus) := do
    if isQuiet then throw 2 else failWith 2 (name ++ ": " ++ fault.text)
  match ← openInput name with
  | .error fault => giveUp fault
  | .ok fd =>
    match ← ask (.statusOf fd) with
    | .ok s => return (fd, s)
    | .error fault => giveUp fault

def sizeLeft (s : FileStatus) (skipped : Nat) : Option Nat :=
  if s.content.isFile then some (s.content.size - skipped) else none

def reportOf (found : List Chosen) : Job Report := do
  let isQuiet := Chosen.has found "s"
  if Chosen.has found "l" && isQuiet then refuse "options -l and -s are incompatible"
  else if isQuiet then return .nothing
  else if Chosen.has found "l" then return .all
  else return .first

def usefulReport (report : Report) : Job Report := do
  if report = .nothing then return report
  else
    match ← ask (.statusOf 1) with
    | .ok s =>
      match s.content with
      | .device .null => return .endings
      | _ => return report
    | .error _ => return report

def compareInputs (found : List Chosen) (report : Report) (most : Option Nat) (i : Inputs) :
    Job Unit := do
  let isQuiet : Bool := report = .nothing
  let isTurned := i.names.2 == "-"
  let first ← open_ isQuiet (if isTurned then i.names.2 else i.names.1)
  if i.names.1 == i.names.2 && i.skipped.1 = i.skipped.2 then throw 0
  let second ← open_ isQuiet (if isTurned then i.names.1 else i.names.2)
  let (one, other) := if isTurned then (second, first) else (first, second)
  if one.2.number = other.2.number && i.skipped.1 = i.skipped.2 then throw 0
  let least (a b : Option Nat) : Option Nat :=
    match a, b with
    | some a, some b => some (min a b)
    | a, b => a.or b
  let known := least most (least (sizeLeft one.2 i.skipped.1) (sizeLeft other.2 i.skipped.2))
  let width := (toString (known.getD (Nat.pow 2 63 - 1))).length
  let m : Manner :=
    { report := ← usefulReport report
      showsBytes := Chosen.has found "b"
      most
      names := i.names
      width }
  skip one.1 i.skipped.1
  skip other.1 i.skipped.2
  let isSame ← compareRest m one.1 other.1 maxRounds most ⟨0, 0, true, false⟩
  setStatus (if isSame then 0 else 1)

def cmp : Utility where
  name := "cmp"
  title := "cmp (GNU diffutils) 3.10"
  operands := "[OPTION]... FILE1 [FILE2 [SKIP1 [SKIP2]]]"
  work arguments := orTrouble do
    let t := OptionTable.ofTexts "bci:ln:sv"
      ["print-bytes b", "print-chars b", "ignore-initial= i", "verbose l", "bytes= n", "silent s",
       "quiet s"] true 2
    let (found, operands) ← optionsOf t arguments
    let found := found.map fun (key, value) => (if key == "c" then "b" else key, value)
    for (key, value) in found do
      if key == "n" && (Dumping.quantity? (value.getD "")).isNone then
        refuse ("invalid --bytes value '" ++ value.getD "" ++ "'")
    let report ← reportOf found
    let most := (Chosen.value? found "n").bind Dumping.quantity?
    compareInputs found report most (← inputsOf found (arguments.getLast?.getD "cmp") operands)

end ServerKeeper.Tool.Comparing
