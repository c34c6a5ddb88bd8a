import ServerKeeper.Json.Quotation
import ServerKeeper.Json.Numeral

namespace ServerKeeper.Json

inductive Value
  | null
  | boolean (b : Bool)
  | number (n : Number)
  | string (s : String)
  | list (elements : List Value)
  | object (members : List (String × Value))
  deriving Inhabited

def Value.found : Value → Found
  | null => .null
  | boolean b => .boolean b
  | number n => .number n
  | string s => .string s
  | list _ => .sequence
  | object _ => .map

def maxDepth : Nat := 127

/-- Takes one from the brackets that may still be opened; `s` starts with the bracket. -/
def openBracket (room : Nat) (s : List Char) : Except Fault Nat :=
  match room with
  | 0 => .error (.peek (refuse .recursionLimit) s)
  | room + 1 => .ok room

def nextElement (first : Bool) (s : List Char) : Except Fault (Option (List Char)) :=
  match dropSpace s with
  | [] => .error (.peek (.unfinished .list) [])
  | ']' :: _ => .ok none
  | c :: s =>
    if first then .ok (some (c :: s))
    else if c = ',' then
      match dropSpace s with
      | [] => .error (.peek (.unfinished .value) [])
      | ']' :: s => .error (.peek (refuse .trailingComma) (']' :: s))
      | s => .ok (some s)
    else .error (.peek (refuse .expectedListCommaOrEnd) (c :: s))

/-- What comes next in an object: its end, or a key, whose quote is taken. -/
def nextKey (first : Bool) (s : List Char) : Except Fault (Option (List Char)) :=
  match dropSpace s with
  | [] => .error (.peek (.unfinished .object) [])
  | '\x7d' :: _ => .ok none
  | c :: s =>
    if first then
      if c = '"' then .ok (some s) else .error (.peek (refuse .keyMustBeString) (c :: s))
    else if c = ',' then
      match dropSpace s with
      | [] => .error (.peek (.unfinished .value) [])
      | '"' :: s => .ok (some s)
      | '\x7d' :: s => .error (.peek (refuse .trailingComma) ('\x7d' :: s))
      | s => .error (.peek (refuse .keyMustBeString) s)
    else .error (.peek (refuse .expectedObjectCommaOrEnd) (c :: s))

def endList : Reader Unit := fun s =>
  match dropSpace s with
  | [] => .error (.peek (.unfinished .list) [])
  | ']' :: s => .ok ((), s)
  | ',' :: s =>
    match dropSpace s with
    | ']' :: s => .error (.peek (refuse .trailingComma) (']' :: s))
    | s => .error (.peek (refuse .trailingCharacters) s)
  | s => .error (.peek (refuse .trailingCharacters) s)

def endObject : Reader Unit := fun s =>
  match dropSpace s with
  | [] => .error (.peek (.unfinished .object) [])
  | '\x7d' :: s => .ok ((), s)
  | ',' :: s => .error (.peek (refuse .trailingComma) (',' :: s))
  | s => .error (.peek (refuse .trailingCharacters) s)

def readScalar : Reader Value
  | [] => .error (.peek (.unfinished .value) [])
  | 'n' :: s => do
    let (_, s) ← readWord ['u', 'l', 'l'] s
    .ok (.null, s)
  | 't' :: s => do
    let (_, s) ← readWord ['r', 'u', 'e'] s
    .ok (.boolean true, s)
  | 'f' :: s => do
    let (_, s) ← readWord ['a', 'l', 's', 'e'] s
    .ok (.boolean false, s)
  | '-' :: s => do
    let (n, s) ← readNumber true s
    .ok (.number n, s)
  | '"' :: s => do
    let (t, s) ← readQuoted s
    .ok (.string t, s)
  | c :: s =>
    if Numeral.isDigit c then do
      let (n, s) ← readNumber false (c :: s)
      .ok (.number n, s)
    else .error (.peek (refuse .expectedValue) (c :: s))

mutual

def readValueFrom (fuel room : Nat) (s : List Char) : Except Fault (Value × List Char) :=
  match fuel with
  | 0 => .error (.here (.unfinished .value) s)
  | fuel + 1 =>
    match dropSpace s with
    | '[' :: s => do
      let room ← openBracket room ('[' :: s)
      let (elements, s) ← readElements fuel room true s
      let (_, s) ← endList s
      .ok (.list elements, s)
    | '\x7b' :: s => do
      let room ← openBracket room ('\x7b' :: s)
      let (members, s) ← readMembers fuel room true s
      let (_, s) ← endObject s
      .ok (.object members, s)
    | s => readScalar s

def readElements (fuel room : Nat) (first : Bool) (s : List Char) :
    Except Fault (List Value × List Char) :=
  match fuel with
  | 0 => .error (.here (.unfinished .list) s)
  | fuel + 1 => do
    match ← nextElement first s with
    | none => .ok ([], s)
    | some s =>
      let (v, s) ← readValueFrom fuel room s
      let (vs, s) ← readElements fuel room false s
      .ok (v :: vs, s)

def readMembers (fuel room : Nat) (first : Bool) (s : List Char) :
    Except Fault (List (String × Value) × List Char) :=
  match fuel with
  | 0 => .error (.here (.unfinished .object) s)
  | fuel + 1 => do
    match ← nextKey first s with
    | none => .ok ([], s)
    | some s =>
      let (key, s) ← readQuoted s
      let (_, s) ← readColon s
      let (v, s) ← readValueFrom fuel room s
      let (ms, s) ← readMembers fuel room false s
      .ok ((key, v) :: ms, s)

end

def readValue (room : Nat) : Reader Value := fun s =>
  readValueFrom (2 * s.length + 2) room s

end ServerKeeper.Json
