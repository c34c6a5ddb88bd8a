import ServerKeeper.Json.Reader

namespace ServerKeeper.Json

def hexDigit? (c : Char) : Option Nat :=
  if '0' ≤ c ∧ c ≤ '9' then some (c.toNat - '0'.toNat)
  else if 'a' ≤ c ∧ c ≤ 'f' then some (c.toNat - 'a'.toNat + 10)
  else if 'A' ≤ c ∧ c ≤ 'F' then some (c.toNat - 'A'.toNat + 10)
  else none

def hexUnit? (a b c d : Char) : Option Nat := do
  let a ← hexDigit? a
  let b ← hexDigit? b
  let c ← hexDigit? c
  let d ← hexDigit? d
  return ((a * 16 + b) * 16 + c) * 16 + d

/-- The unit that four hexadecimal digits name. Four bytes are taken at once; where fewer are left,
all of them are. -/
def readUnit : Reader Nat := fun s =>
  if byteLength (s.take 4) < 4 then .error (.here (.unfinished .string) [])
  else
    match s with
    | a :: b :: c :: d :: rest =>
      match hexUnit? a b c d with
      | some n => .ok (n, rest)
      | none => .error (.behind (refuse .invalidEscape) s 4)
    | _ => .error (.behind (refuse .invalidEscape) s 4)

def simpleEscape? : Char → Option Char
  | '"' => some '"'
  | '\\' => some '\\'
  | '/' => some '/'
  | 'b' => some '\x08'
  | 'f' => some '\x0c'
  | 'n' => some '\n'
  | 'r' => some '\r'
  | 't' => some '\t'
  | _ => none

def isLeading (n : Nat) : Bool := 0xd800 ≤ n && n ≤ 0xdbff

def isTrailing (n : Nat) : Bool := 0xdc00 ≤ n && n ≤ 0xdfff

/-- The character of a hexadecimal escape. A leading surrogate needs a second escape, with a
trailing one. -/
def readUnicode : Reader Char := fun s => do
  let (n, s) ← readUnit s
  if isTrailing n then .error (.here (refuse .loneSurrogate) s)
  else if isLeading n then
    match s with
    | '\\' :: 'u' :: s =>
      let (m, s) ← readUnit s
      if isTrailing m then
        .ok (Char.ofNat (0x10000 + (n - 0xd800) * 0x400 + (m - 0xdc00)), s)
      else .error (.here (refuse .loneSurrogate) s)
    | [] | ['\\'] => .error (.here (.unfinished .string) [])
    | '\\' :: s => .error (.behind (refuse .unexpectedEndOfHexEscape) s 1)
    | s => .error (.behind (refuse .unexpectedEndOfHexEscape) s 1)
  else .ok (Char.ofNat n, s)

def readEscape : Reader Char
  | [] => .error (.here (.unfinished .string) [])
  | 'u' :: s => readUnicode s
  | c :: s =>
    match simpleEscape? c with
    | some d => .ok (d, s)
    | none => .error (.behind (refuse .invalidEscape) (c :: s) 1)

def passEscape : Reader Unit
  | [] => .error (.here (.unfinished .string) [])
  | 'u' :: s => do
    let (_, s) ← readUnit s
    .ok ((), s)
  | c :: s =>
    match simpleEscape? c with
    | some _ => .ok ((), s)
    | none => .error (.behind (refuse .invalidEscape) (c :: s) 1)

def isControl (c : Char) : Bool := c.val < 0x20

/-- What stands up to the closing quote, in at most `fuel` steps; each step takes a character. -/
def readQuotedFrom : Nat → List Char → Reader (List Char)
  | 0, _, s => .error (.here (.unfinished .string) s)
  | fuel + 1, done, s =>
    match s with
    | [] => .error (.here (.unfinished .string) [])
    | '"' :: s => .ok (done.reverse, s)
    | '\\' :: s => do
      let (c, s) ← readEscape s
      readQuotedFrom fuel (c :: done) s
    | c :: s =>
      if isControl c then .error (.behind (refuse .controlCharacter) (c :: s) 1)
      else readQuotedFrom fuel (c :: done) s

def readQuoted : Reader String := fun s => do
  let (cs, rest) ← readQuotedFrom (s.length + 1) [] s
  .ok (String.ofList cs, rest)

def passQuotedFrom : Nat → Reader Unit
  | 0, s => .error (.here (.unfinished .string) s)
  | fuel + 1, s =>
    match s with
    | [] => .error (.here (.unfinished .string) [])
    | '"' :: s => .ok ((), s)
    | '\\' :: s => do
      let (_, s) ← passEscape s
      passQuotedFrom fuel s
    | c :: s =>
      if isControl c then .error (.here (refuse .controlCharacter) (c :: s))
      else passQuotedFrom fuel s

def passQuoted : Reader Unit := fun s => passQuotedFrom (s.length + 1) s

end ServerKeeper.Json
