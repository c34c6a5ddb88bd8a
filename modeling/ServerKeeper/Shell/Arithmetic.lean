namespace ServerKeeper.Shell.Arithmetic

inductive Fault
  | malformed (text : String)
  | illegalNumber (text : String)
  | readOnly (name : String)

structure Variables where
  value : String → Option String
  isReadOnly : String → Bool

inductive Token
  | endOfText
  | number (n : Int64)
  | name (text : String)
  | symbol (text : String)
  | unknown
  deriving DecidableEq

/-- How far an expression was read, and the values that were assigned, the last one first. -/
structure Sheet where
  rest : List Char
  token : Token
  assigned : List (String × Int64)

abbrev Calculation (α : Type) := EStateM Fault Sheet α

def symbols : List String :=
  ["<<=", ">>=", "<<", ">>", "<=", ">=", "==", "!=", "&&", "||", "*=", "/=", "%=", "+=", "-=", "&=",
    "^=", "|=", "+", "-", "*", "/", "%", "<", ">", "&", "|", "^", "!", "~", "(", ")", "?", ":", "="]

def digitValue (c : Char) : Nat :=
  if c.isDigit then c.toNat - 48 else if c.isAlpha then c.toLower.toNat - 87 else 99

def greatest : Nat := Nat.pow 2 63 - 1

/-- A constant without a sign, and what follows it: hexadecimal behind `0x`, octal behind `0`, else
decimal. -/
def constant (cs : List Char) : Nat × List Char :=
  let inBase (base : Nat) (cs : List Char) : Nat × List Char :=
    let digits := cs.takeWhile fun c => digitValue c < base
    (digits.foldl (fun n c => base * n + digitValue c) 0, cs.drop digits.length)
  match cs with
  | '0' :: x :: d :: rest =>
    if (x = 'x' || x = 'X') && digitValue d < 16 then inBase 16 (d :: rest) else inBase 8 cs
  | '0' :: rest => inBase 8 ('0' :: rest)
  | cs => inBase 10 cs

def isSpace (c : Char) : Bool := c == ' ' || '\t' ≤ c && c ≤ '\x0d'

/-- The number that a whole text denotes, with blanks around it and perhaps a sign. A text of
blanks is zero. -/
def number? (text : String) : Option Int64 :=
  let cs := text.toList.dropWhile isSpace
  let (negative, digits) :=
    match cs with
    | '-' :: cs => (true, cs)
    | '+' :: cs => (false, cs)
    | cs => (false, cs)
  let (n, rest) := constant digits
  if digits.any Char.isDigit && digits.head?.any Char.isDigit then
    if rest.all isSpace && n ≤ (if negative then greatest + 1 else greatest) then
      some (Int64.ofInt (if negative then -n else n))
    else none
  else if cs.isEmpty then some 0
  else none

def scan (cs : List Char) : Token × List Char :=
  match cs.dropWhile fun c => c == ' ' || c == '\t' || c == '\n' with
  | [] => (.endOfText, [])
  | c :: cs =>
    if c.isDigit then
      let (n, rest) := constant (c :: cs)
      (.number (Int64.ofNat (min n greatest)), rest)
    else if c.isAlpha || c == '_' then
      let name := (c :: cs).takeWhile fun c => c.isAlphanum || c == '_'
      (.name (String.ofList name), (c :: cs).drop name.length)
    else
      match symbols.find? fun s => s.toList.isPrefixOf (c :: cs) with
      | some s => (.symbol s, (c :: cs).drop s.length)
      | none => (.unknown, c :: cs)

def advance : Calculation Unit :=
  modify fun s =>
    let (token, rest) := scan s.rest
    { s with token, rest }

def binding? : Token → Option Nat
  | .symbol s =>
    ([("|", 1), ("^", 2), ("&", 3), ("==", 4), ("!=", 4), ("<", 5), (">", 5), ("<=", 5), (">=", 5),
      ("<<", 6), (">>", 6), ("+", 7), ("-", 7), ("*", 8), ("/", 8), ("%", 8)]).lookup s
  | _ => none

def truth (b : Bool) : Int64 := if b then 1 else 0

def apply (op : String) (a b : Int64) : Calculation Int64 :=
  match op with
  | "|" => return a ||| b
  | "^" => return a ^^^ b
  | "&" => return a &&& b
  | "==" => return truth (a == b)
  | "!=" => return truth (a != b)
  | "<" => return truth (a < b)
  | ">" => return truth (b < a)
  | "<=" => return truth (a ≤ b)
  | ">=" => return truth (b ≤ a)
  | "<<" => return a <<< b
  | ">>" => return a >>> b
  | "+" => return a + b
  | "-" => return a - b
  | "*" => return a * b
  | "/" => if b = 0 then throw (.malformed "division by zero") else return a / b
  | _ => if b = 0 then throw (.malformed "division by zero") else return a % b

section

variable (vs : Variables)

def look (name : String) : Calculation Int64 := do
  match (← get).assigned.lookup name with
  | some n => return n
  | none =>
    match vs.value name with
    | none => return 0
    | some text =>
      match number? text with
      | some n => return n
      | none => throw (.illegalNumber text)

def assign (name : String) (n : Int64) : Calculation Int64 := do
  if vs.isReadOnly name then throw (.readOnly name)
  modify fun s => { s with assigned := (name, n) :: s.assigned }
  return n

def combined? : Token → Option (Option String)
  | .symbol "=" => some none
  | .symbol s =>
    if ["<<=", ">>=", "*=", "/=", "%=", "+=", "-=", "&=", "^=", "|="].contains s then
      some (some (s.dropEnd 1).toString)
    else none
  | _ => none

mutual

/-- A sign, a bracket, a number or a name. What is not needed is only read: `counts` says so. -/
def primary (fuel : Nat) (counts : Bool) : Calculation Int64 :=
  match fuel with
  | 0 => throw (.malformed "expecting primary")
  | fuel + 1 => do
    let t := (← get).token
    match t with
    | .number n =>
      advance
      return n
    | .name s =>
      advance
      if counts then look vs s else return 0
    | .symbol "+" =>
      advance
      primary fuel counts
    | .symbol "-" =>
      advance
      return -(← primary fuel counts)
    | .symbol "!" =>
      advance
      return truth ((← primary fuel counts) == 0)
    | .symbol "~" =>
      advance
      return ~~~(← primary fuel counts)
    | .symbol "(" =>
      advance
      let n ← assignment fuel counts
      if (← get).token ≠ .symbol ")" then throw (.malformed "expecting ')'")
      advance
      return n
    | _ => throw (.malformed "expecting primary")

def operators (fuel : Nat) (counts : Bool) (least : Nat) (a : Int64) : Calculation Int64 :=
  match fuel with
  | 0 => throw (.malformed "expecting primary")
  | fuel + 1 => do
    let op := (← get).token
    match op, binding? op with
    | .symbol s, some b =>
      if least < b then
        advance
        let c ← operators fuel counts b (← primary fuel counts)
        let a ← if counts then apply s a c else pure c
        operators fuel counts least a
      else return a
    | _, _ => return a

def conjunction (fuel : Nat) (counts : Bool) : Calculation Int64 :=
  match fuel with
  | 0 => throw (.malformed "expecting primary")
  | fuel + 1 => do
    let a ← operators fuel counts 0 (← primary fuel counts)
    if (← get).token = .symbol "&&" then
      advance
      let b ← conjunction fuel (counts && a != 0)
      return truth (a != 0 && b != 0)
    else return a

def disjunction (fuel : Nat) (counts : Bool) : Calculation Int64 :=
  match fuel with
  | 0 => throw (.malformed "expecting primary")
  | fuel + 1 => do
    let a ← conjunction fuel counts
    if (← get).token = .symbol "||" then
      advance
      let b ← disjunction fuel (counts && a == 0)
      return truth (a != 0 || b != 0)
    else return a

def choice (fuel : Nat) (counts : Bool) : Calculation Int64 :=
  match fuel with
  | 0 => throw (.malformed "expecting primary")
  | fuel + 1 => do
    let a ← disjunction fuel counts
    if (← get).token = .symbol "?" then
      advance
      let b ← assignment fuel (counts && a != 0)
      if (← get).token ≠ .symbol ":" then throw (.malformed "expecting ':'")
      advance
      let c ← choice fuel (counts && a == 0)
      return if a != 0 then b else c
    else return a

def assignment (fuel : Nat) (counts : Bool) : Calculation Int64 :=
  match fuel with
  | 0 => throw (.malformed "expecting primary")
  | fuel + 1 => do
    let s ← get
    match s.token, combined? (scan s.rest).1 with
    | .name x, some op =>
      advance
      advance
      let n ← assignment fuel counts
      if !counts then return n
      else
        match op with
        | none => assign vs x n
        | some op => assign vs x (← apply op (← look vs x) n)
    | _, _ => choice fuel counts

end

def whole (fuel : Nat) : Calculation Int64 := do
  advance
  let n ← assignment vs fuel true
  if (← get).token ≠ .endOfText then throw (.malformed "expecting EOF")
  return n

end

/-- The value of an expression or why it has none, and what it assigns, the first one first. -/
def evaluate (vs : Variables) (text : String) : Except Fault Int64 × List (String × Int64) :=
  match whole vs (8 * text.length + 16) ⟨text.toList, .endOfText, []⟩ with
  | .ok n s => (.ok n, s.assigned.reverse)
  | .error fault s => (.error fault, s.assigned.reverse)

end ServerKeeper.Shell.Arithmetic
