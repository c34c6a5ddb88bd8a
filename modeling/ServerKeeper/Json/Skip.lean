import ServerKeeper.Json.Value

namespace ServerKeeper.Json

def skipScalar : Reader Unit
  | [] => .error (.peek (.unfinished .value) [])
  | 'n' :: s => readWord ['u', 'l', 'l'] s
  | 't' :: s => readWord ['r', 'u', 'e'] s
  | 'f' :: s => readWord ['a', 'l', 's', 'e'] s
  | '-' :: s => passNumber true s
  | '"' :: s => passQuoted s
  | c :: s =>
    if Numeral.isDigit c then passNumber false (c :: s)
    else .error (.peek (refuse .expectedValue) (c :: s))

def openKey : Reader Unit := fun s =>
  match dropSpace s with
  | [] => .error (.peek (.unfinished .object) [])
  | '"' :: s => .ok ((), s)
  | s => .error (.peek (refuse .keyMustBeString) s)

mutual

def skipValueFrom (fuel : Nat) (s : List Char) : Except Fault (Unit × List Char) :=
  match fuel with
  | 0 => .error (.here (.unfinished .value) s)
  | fuel + 1 =>
    match dropSpace s with
    | '[' :: s =>
      match dropSpace s with
      | [] => .error (.peek (.unfinished .list) [])
      | ']' :: s => .ok ((), s)
      | s => skipElements fuel s
    | '\x7b' :: s =>
      match dropSpace s with
      | [] => .error (.peek (.unfinished .object) [])
      | '\x7d' :: s => .ok ((), s)
      | s => skipMembers fuel s
    | s => skipScalar s

/-- Goes over the elements of a list that has some, and its closing bracket. -/
def skipElements (fuel : Nat) (s : List Char) : Except Fault (Unit × List Char) :=
  match fuel with
  | 0 => .error (.here (.unfinished .list) s)
  | fuel + 1 => do
    let (_, s) ← skipValueFrom fuel s
    match dropSpace s with
    | [] => .error (.peek (.unfinished .list) [])
    | ']' :: s => .ok ((), s)
    | ',' :: s => skipElements fuel s
    | s => .error (.peek (refuse .expectedListCommaOrEnd) s)

/-- Goes over the members of an object that has some, and its closing bracket. -/
def skipMembers (fuel : Nat) (s : List Char) : Except Fault (Unit × List Char) :=
  match fuel with
  | 0 => .error (.here (.unfinished .object) s)
  | fuel + 1 => do
    let (_, s) ← openKey s
    let (_, s) ← passQuoted s
    let (_, s) ← readColon s
    let (_, s) ← skipValueFrom fuel s
    match dropSpace s with
    | [] => .error (.peek (.unfinished .object) [])
    | '\x7d' :: s => .ok ((), s)
    | ',' :: s => skipMembers fuel s
    | s => .error (.peek (refuse .expectedObjectCommaOrEnd) s)

end

def skipValue : Reader Unit := fun s =>
  skipValueFrom (2 * s.length + 2) s

end ServerKeeper.Json
