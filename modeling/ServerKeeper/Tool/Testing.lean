import ServerKeeper.Host.FileTest
import ServerKeeper.Tool.Job

namespace ServerKeeper.Tool.Testing

open Host
open ShownPath (literal)

structure State where
  words : Array String
  place : Nat

abbrev Test := StateT State (ExceptT String Job)

def refuse {α : Type} (text : String) : Test α := StateT.lift (throw text)

def question (p : Program Bool) : Test Bool :=
  StateT.lift (ExceptT.lift (ExceptT.lift (StateT.lift p)))

def left : Test Nat := do
  let s ← get
  return s.words.size - s.place

def word (n : Nat) : Test String := do
  let s ← get
  return s.words.getD (s.place + n) ""

def isWord (n : Nat) (text : String) : Test Bool := do
  return (← left) > n && (← word n) == text

def beyond {α : Type} : Test α := do
  refuse ("missing argument after " ++ literal ((← get).words.back?.getD ""))

def advance (needsMore : Bool) : Test Unit := do
  modify fun s => { s with place := s.place + 1 }
  if needsMore && (← left) = 0 then beyond

def isSpace (c : Char) : Bool := c = ' ' || '\t' ≤ c && c ≤ '\x0d'

def number (text : String) : Test Int := do
  let cs := text.toList.dropWhile isSpace
  let (negative, cs) :=
    match cs with
    | '-' :: cs => (true, cs)
    | '+' :: cs => (false, cs)
    | cs => (false, cs)
  let digits := cs.takeWhile Char.isDigit
  if digits.isEmpty || !(cs.drop digits.length).all isSpace then
    refuse ("invalid integer " ++ literal text)
  else
    let n : Int := ((String.ofList digits).toNat?).getD 0
    return if negative then -n else n

def binaryWords : List String :=
  ["=", "==", "!=", "-eq", "-ne", "-lt", "-le", "-gt", "-ge", "-nt", "-ot", "-ef"]

def isBinary (n : Nat) : Test Bool := do
  return (← left) > n && binaryWords.contains (← word n)

def size (isLength : Bool) (text : String) : Test Int :=
  if isLength then return text.length else number text

def binary (leftIsLength : Bool) : Test Bool := do
  if leftIsLength then advance false
  let a ← word 0
  let op ← word 1
  let rightIsLength := (← left) > 3 && (← word 2) == "-l"
  let b ← if rightIsLength then word 3 else word 2
  let numbers (test : Int → Int → Bool) : Test Bool := do
    let m ← size leftIsLength a
    return test m (← size rightIsLength b)
  let r ←
    match op with
    | "=" | "==" => pure (a == b)
    | "!=" => pure (a != b)
    | "-eq" => numbers (· == ·)
    | "-ne" => numbers (· != ·)
    | "-lt" => numbers (· < ·)
    | "-le" => numbers (· ≤ ·)
    | "-gt" => numbers (· > ·)
    | "-ge" => numbers (· ≥ ·)
    | "-nt" => question (newer a b)
    | "-ot" => question (newer b a)
    | _ => question (FileTest.isSame a b)
  modify fun s => { s with place := s.place + if rightIsLength then 4 else 3 }
  return r
where
  /-- Whether a file was changed after another one, or the other one is not there. -/
  newer (a b : String) : Program Bool := do
    match ← FileTest.status? a true, ← FileTest.status? b true with
    | some s, some t => return t.modified < s.modified
    | some _, none => return true
    | _, _ => return false

def unary : Test Bool := do
  let op ← word 0
  let letter := (op.toList.drop 1).headD ' '
  let operand : Test String := do
    advance true
    let a ← word 0
    advance false
    return a
  match letter with
  | 'n' => return (← operand) != ""
  | 'z' => return (← operand) == ""
  | 't' =>
    let _ ← number (← operand)
    return false
  | letter =>
    match FileTest.question? letter with
    | some q =>
      let a ← operand
      question (FileTest.ask letter q a)
    | none => refuse (literal op ++ ": unary operator expected")

def isOperator (text : String) : Bool := text.startsWith "-" && text.length = 2

def one : Test Bool := do
  let a ← word 0
  advance false
  return a != ""

def two : Test Bool := do
  if ← isWord 0 "!" then
    advance false
    return !(← one)
  else if isOperator (← word 0) then unary
  else beyond

mutual

def disjunction : Nat → Bool → Test Bool
  | 0, _ => beyond
  | fuel + 1, before => do
    let a ← conjunction fuel true
    let value := before || a
    if ← isWord 0 "-o" then
      advance false
      disjunction fuel value
    else return value

def conjunction : Nat → Bool → Test Bool
  | 0, _ => beyond
  | fuel + 1, before => do
    let a ← term fuel
    let value := before && a
    if ← isWord 0 "-a" then
      advance false
      conjunction fuel value
    else return value

def term : Nat → Test Bool
  | 0 => beyond
  | fuel + 1 => do
    if ← isWord 0 "!" then
      advance true
      return !(← term fuel)
    if (← left) = 0 then beyond
    if ← isWord 0 "(" then
      advance true
      let s ← get
      let near := (List.range 4).map (· + 1) |>.find? fun n =>
        s.place + n ≥ s.words.size || s.words.getD (s.place + n) "" == ")" || n = 4
      let count := match near with
        | some 4 => s.words.size - s.place
        | some n => n
        | none => 1
      let value ← whole fuel count
      if (← left) = 0 then refuse (literal ")" ++ " expected")
      else if !(← isWord 0 ")") then
        refuse (literal ")" ++ " expected, found " ++ literal (← word 0))
      advance false
      return value
    else if (← left) ≥ 4 && (← isWord 0 "-l") && (← isBinary 2) then binary true
    else if (← left) ≥ 3 && (← isBinary 1) then binary false
    else if isOperator (← word 0) then unary
    else one

def three : Nat → Test Bool
  | 0 => beyond
  | fuel + 1 => do
    if ← isBinary 1 then binary false
    else if ← isWord 0 "!" then
      advance true
      return !(← two)
    else if (← isWord 0 "(") && (← isWord 2 ")") then
      advance false
      let value ← one
      advance false
      return value
    else if (← isWord 1 "-a") || (← isWord 1 "-o") then
      if (← left) = 0 then beyond else disjunction fuel false
    else refuse (literal (← word 1) ++ ": binary operator expected")

def whole : Nat → Nat → Test Bool
  | 0, _ => beyond
  | fuel + 1, count => do
    match count with
    | 1 => one
    | 2 => two
    | 3 => three fuel
    | count =>
      if count = 4 && (← isWord 0 "!") then
        advance true
        return !(← three fuel)
      else if count = 4 && (← isWord 0 "(") && (← isWord 3 ")") then
        advance false
        let value ← two
        advance false
        return value
      else if (← left) = 0 then beyond
      else disjunction fuel false

end

def verdict (words : List String) : Job (Except String Bool) := do
  if words.isEmpty then return .ok false
  else
    let all : Test Bool := do
      let value ← whole (16 * words.length + 16) words.length
      if (← left) > 0 then refuse ("extra argument " ++ literal (← word 0))
      else return value
    ExceptT.run (Prod.fst <$> all.run ⟨words.toArray, 0⟩)

def conclude (words : List String) : Job Unit := do
  match ← verdict words with
  | .ok value => Job.setStatus (if value then 0 else 1)
  | .error text => Job.complainWith 2 text

def test : Utility where
  name := "test"
  work := conclude

def bracket : Utility where
  name := "["
  operands := "EXPRESSION ]"
  work arguments := do
    Job.answerSole arguments
    if arguments.getLast? = some "]" then conclude arguments.dropLast
    else Job.complainWith 2 ("missing " ++ literal "]")

end ServerKeeper.Tool.Testing
