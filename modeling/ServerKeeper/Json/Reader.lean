import ServerKeeper.Json.Fault

namespace ServerKeeper.Json

abbrev Reader (α : Type) := List Char → Except Fault (α × List Char)

def isSpace (c : Char) : Bool :=
  c == ' ' || c == '\t' || c == '\n' || c == '\r'

def dropSpace (s : List Char) : List Char :=
  s.dropWhile isSpace

def refuse (m : Malformed) : Cause := .malformed m

/-- The rest of a word whose first letter was read. Letters are taken one by one, the wrong one
included. -/
def readWord : List Char → Reader Unit
  | [], s => .ok ((), s)
  | _ :: _, [] => .error (.here (.unfinished .value) [])
  | c :: word, d :: s =>
    if d = c then readWord word s else .error (.behind (refuse .expectedIdent) (d :: s) 1)

def readColon : Reader Unit := fun s =>
  match dropSpace s with
  | ':' :: s => .ok ((), s)
  | [] => .error (.peek (.unfinished .object) [])
  | s => .error (.peek (refuse .expectedColon) s)

/-- Reads a whole text: nothing but space may stand behind the value. -/
def readText {α : Type} (read : Reader α) (text : String) : Except Error α :=
  match read text.toList with
  | .error f => .error (.ofFault text f)
  | .ok (a, s) =>
    match dropSpace s with
    | [] => .ok a
    | s => .error (.ofFault text (.peek (refuse .trailingCharacters) s))

end ServerKeeper.Json
