import ServerKeeper.Host.FileTest
import ServerKeeper.Text.Basic

namespace ServerKeeper.Shell.Condition

open Host

abbrev Test (α : Type) := StateT (List String) (ExceptT String Program) α

def lift {α : Type} (p : Program α) : Test α := StateT.lift (ExceptT.lift p)

def isSpace (c : Char) : Bool := c == ' ' || '\t' ≤ c && c ≤ '\x0d'

def number? (text : String) : Option Int :=
  let trimmed := ((text.toList.dropWhile isSpace).reverse.dropWhile isSpace).reverse
  let natural (greatest : Nat) (cs : List Char) : Option Int :=
    (Text.natural? greatest cs).map Int.ofNat
  match trimmed with
  | '-' :: cs => (natural (Nat.pow 2 63) cs).map (- ·)
  | '+' :: cs => natural (Nat.pow 2 63 - 1) cs
  | cs => natural (Nat.pow 2 63 - 1) cs

def number (text : String) : Test Int :=
  match number? text with
  | some n => return n
  | none => throw ("Illegal number: " ++ text)

inductive Operator
  | unary (letter : Char)
  | binary (text : String)
  | not
  | and
  | or
  | opening
  | closing
  deriving DecidableEq

def binaryTexts : List String :=
  ["=", "==", "!=", "<", ">", "-eq", "-ne", "-ge", "-gt", "-le", "-lt", "-nt", "-ot", "-ef"]

def operator? (s : String) : Option Operator :=
  if s != "==" && binaryTexts.contains s then some (.binary s)
  else
    match s with
    | "!" => some .not
    | "-a" => some .and
    | "-o" => some .or
    | "(" => some .opening
    | ")" => some .closing
    | s =>
      match s.toList with
      | ['-', c] => if "rwxefdcbpugkhLSstznOG".contains c then some (.unary c) else none
      | _ => none

def isBinary (s : String) : Bool :=
  match operator? s with
  | some (.binary _) => true
  | _ => false

def reading : List String → Option Operator
  | [] => none
  | word :: rest =>
    match operator? word, rest with
    | some (.unary _), [] => none
    | some (.unary c), next :: more =>
      if !more.isEmpty && isBinary next then none else some (.unary c)
    | some .opening, [] => none
    | op, _ => op

def compare (op a b : String) : Test Bool := do
  let numbers (test : Int → Int → Bool) : Test Bool := do
    let m ← number a
    return test m (← number b)
  match op with
  | "=" => return a == b
  | "!=" => return a != b
  | "<" => return a < b
  | ">" => return b < a
  | "-eq" => numbers (· == ·)
  | "-ne" => numbers (· != ·)
  | "-lt" => numbers (· < ·)
  | "-le" => numbers (· ≤ ·)
  | "-gt" => numbers (· > ·)
  | "-ge" => numbers (· ≥ ·)
  | "-nt" => lift (FileTest.isNewer a b)
  | "-ot" => lift (FileTest.isNewer b a)
  | _ => lift (FileTest.isSame a b)

def unary (letter : Char) (a : String) : Test Bool := do
  match letter with
  | 'n' => return a != ""
  | 'z' => return a == ""
  | 't' =>
    let _ ← number a
    return false
  | letter =>
    match FileTest.question? letter with
    | some question => lift (FileTest.ask letter question a)
    | none => return false

def words : Test (List String) := get

def advance : Test Unit := modify (·.drop 1)

mutual

/-- Conditions joined by `-o`. The last word of a condition is the one that is looked at behind
it. -/
def disjunction (fuel : Nat) (op : Option Operator) : Test Bool :=
  match fuel with
  | 0 => throw "too many arguments"
  | fuel + 1 => do
    let a ← conjunction fuel op
    if reading ((← words).drop 1) = some .or then
      modify (·.drop 2)
      let b ← disjunction fuel (reading (← words))
      return a || b
    else return a

def conjunction (fuel : Nat) (op : Option Operator) : Test Bool :=
  match fuel with
  | 0 => throw "too many arguments"
  | fuel + 1 => do
    let a ← negation fuel op
    if reading ((← words).drop 1) = some .and then
      modify (·.drop 2)
      let b ← conjunction fuel (reading (← words))
      return a && b
    else return a

def negation (fuel : Nat) (op : Option Operator) : Test Bool :=
  match fuel with
  | 0 => throw "too many arguments"
  | fuel + 1 =>
    if op = some .not then do
      let next := (← words).drop 1
      if !next.isEmpty then
        advance
        return !(← negation fuel (reading next))
      else return true
    else primary fuel op

def primary (fuel : Nat) (op : Option Operator) : Test Bool :=
  match fuel with
  | 0 => throw "too many arguments"
  | fuel + 1 => do
    match ← words, op with
    | [], _ => return false
    | _ :: rest, some .opening =>
      advance
      if reading rest = some .closing then return false
      else
        let a ← disjunction fuel (reading rest)
        advance
        if reading (← words) ≠ some .closing then throw "closing paren expected"
        return a
    | word :: rest, some (.unary letter) =>
      advance
      match rest with
      | [] => throw (word ++ ": argument expected")
      | a :: _ => unary letter a
    | word :: rest, _ =>
      match rest with
      | op :: more =>
        if (reading rest).any fun | .binary _ => true | _ => false then
          match more with
          | [] => throw (op ++ ": argument expected")
          | b :: _ =>
            modify (·.drop 2)
            compare op word b
        else return word != ""
      | [] => return word != ""

end

def whole (op : Option Operator) : Test Bool := do
  let ws ← words
  let b ← disjunction (8 * ws.length + 8) op
  match ← words with
  | last :: _ :: _ =>
    throw ((if last.isEmpty then "" else last ++ ": ") ++ "unexpected operator")
  | _ => return b

/-- Decides a condition, by the number of its words, or the opposite. No word at all is false. One
mark for the opposite counts as much as two in front of three words. -/
def decide : Nat → Bool → List String → Test Bool
  | 0, _, _ => return false
  | fuel + 1, isOpposite, ws => do
    set ws
    let length := ws.length
    let isCompared := length = 3 && (ws[1]?).any isBinary
    if ws.isEmpty then return false
    else if isCompared || !(length = 3 || length = 4) then
      return (← whole (if isCompared then none else reading ws)) != isOpposite
    else if ws.head? = some "(" && ws.getLast? = some ")" then
      let inner := (ws.drop 1).dropLast
      set inner
      return (← whole (reading inner)) != isOpposite
    else if ws.head? = some "!" then decide fuel true (ws.drop 1)
    else return (← whole (reading ws)) != isOpposite

def verdict (ws : List String) : Program (Except String Bool) :=
  ExceptT.run (Prod.fst <$> (decide (ws.length + 1) false ws).run [])

end ServerKeeper.Shell.Condition
