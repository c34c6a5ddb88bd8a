import ServerKeeper.Json.Value

namespace ServerKeeper.Json

abbrev Typed (α : Type) := Nat → Reader α

def mismatch (m : Mismatch) : Cause := .mismatch m

/-- The fault of a value that is not what was expected; `s` starts with the value. -/
def unexpected (expected : String) (s : List Char) : Fault :=
  match s with
  | '[' :: _ => .here (mismatch (.invalidType .sequence expected)) s
  | '\x7b' :: _ => .here (mismatch (.invalidType .map expected)) s
  | s =>
    match readScalar s with
    | .error f => f
    | .ok (v, rest) => .here (mismatch (.invalidType v.found expected)) rest

def readString : Typed String := fun _ s =>
  match dropSpace s with
  | '"' :: s => readQuoted s
  | s => .error (unexpected "a string" s)

def readBool : Typed Bool := fun _ s =>
  match dropSpace s with
  | 't' :: s => do
    let (_, s) ← readWord ['r', 'u', 'e'] s
    .ok (true, s)
  | 'f' :: s => do
    let (_, s) ← readWord ['a', 'l', 's', 'e'] s
    .ok (false, s)
  | s => .error (unexpected "a boolean" s)

def readOption {α : Type} (read : Typed α) : Typed (Option α) := fun room s =>
  match dropSpace s with
  | 'n' :: s => do
    let (_, s) ← readWord ['u', 'l', 'l'] s
    .ok (none, s)
  | s => do
    let (a, s) ← read room s
    .ok (some a, s)

def readListFrom {α : Type} (read : Reader α) : Nat → Bool → Reader (List α)
  | 0, _, s => .error (.here (.unfinished .list) s)
  | fuel + 1, first, s => do
    match ← nextElement first s with
    | none => .ok ([], s)
    | some s =>
      let (a, s) ← read s
      let (as, s) ← readListFrom read fuel false s
      .ok (a :: as, s)

def readList {α : Type} (read : Typed α) : Typed (List α) := fun room s =>
  match dropSpace s with
  | '[' :: s => do
    let room ← openBracket room ('[' :: s)
    let (as, s) ← readListFrom (read room) (s.length + 1) true s
    let (_, s) ← endList s
    .ok (as, s)
  | s => .error (unexpected "a sequence" s)

/-- The fault of a record that is wrong as a whole. Its closing bracket is taken if it comes next.
-/
def atBracket (bracket : Char) (m : Mismatch) (s : List Char) : Fault :=
  match dropSpace s with
  | c :: s => if c = bracket then .here (mismatch m) s else .here (mismatch m) (c :: s)
  | [] => .here (mismatch m) []

end ServerKeeper.Json
