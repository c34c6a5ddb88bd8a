import ServerKeeper.Json.Value

namespace ServerKeeper.Json

def hexDigit (n : Nat) : Char :=
  if n < 10 then Char.ofNat ('0'.toNat + n) else Char.ofNat ('a'.toNat + (n - 10))

/-- Quotes, backslashes and control characters have an escape; all else stands as it is. -/
def escapeChar (c : Char) : List Char :=
  match c with
  | '"' => ['\\', '"']
  | '\\' => ['\\', '\\']
  | '\x08' => ['\\', 'b']
  | '\t' => ['\\', 't']
  | '\n' => ['\\', 'n']
  | '\x0c' => ['\\', 'f']
  | '\r' => ['\\', 'r']
  | c =>
    if isControl c then ['\\', 'u', '0', '0', hexDigit (c.toNat / 16), hexDigit (c.toNat % 16)]
    else [c]

def quote (s : String) : List Char :=
  '"' :: s.toList.flatMap escapeChar ++ ['"']

def Number.render : Number → List Char
  | integer n => (toString n).toList
  | float x => (Decimal.render x).toList

mutual

def compactChars : Value → List Char
  | .null => ['n', 'u', 'l', 'l']
  | .boolean true => ['t', 'r', 'u', 'e']
  | .boolean false => ['f', 'a', 'l', 's', 'e']
  | .number n => n.render
  | .string s => quote s
  | .list [] => ['[', ']']
  | .list (v :: vs) => '[' :: compactChars v ++ compactElements vs ++ [']']
  | .object [] => ['\x7b', '\x7d']
  | .object ((key, v) :: ms) =>
    '\x7b' :: quote key ++ ':' :: compactChars v ++ compactMembers ms ++ ['\x7d']

def compactElements : List Value → List Char
  | [] => []
  | v :: vs => ',' :: compactChars v ++ compactElements vs

def compactMembers : List (String × Value) → List Char
  | [] => []
  | (key, v) :: ms => ',' :: quote key ++ ':' :: compactChars v ++ compactMembers ms

end

def compact (v : Value) : String := String.ofList (compactChars v)

def newline (level : Nat) : List Char :=
  '\n' :: List.replicate (2 * level) ' '

mutual

def prettyChars (level : Nat) : Value → List Char
  | .null => ['n', 'u', 'l', 'l']
  | .boolean true => ['t', 'r', 'u', 'e']
  | .boolean false => ['f', 'a', 'l', 's', 'e']
  | .number n => n.render
  | .string s => quote s
  | .list [] => ['[', ']']
  | .list (v :: vs) =>
    '[' :: newline (level + 1) ++ prettyChars (level + 1) v ++ prettyElements (level + 1) vs ++
      newline level ++ [']']
  | .object [] => ['\x7b', '\x7d']
  | .object ((key, v) :: ms) =>
    '\x7b' :: newline (level + 1) ++ quote key ++ ':' :: ' ' :: prettyChars (level + 1) v ++
      prettyMembers (level + 1) ms ++ newline level ++ ['\x7d']

def prettyElements (level : Nat) : List Value → List Char
  | [] => []
  | v :: vs => ',' :: newline level ++ prettyChars level v ++ prettyElements level vs

def prettyMembers (level : Nat) : List (String × Value) → List Char
  | [] => []
  | (key, v) :: ms =>
    ',' :: newline level ++ quote key ++ ':' :: ' ' :: prettyChars level v ++ prettyMembers level ms

end

def pretty (v : Value) : String := String.ofList (prettyChars 0 v)

end ServerKeeper.Json
