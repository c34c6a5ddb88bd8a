import ServerKeeper.Json.Reader

namespace ServerKeeper.Json

structure Numeral where
  negative : Bool
  whole : List Char
  fraction : Option (List Char)
  exponent : Option (Bool × List Char)
  deriving DecidableEq, Repr

namespace Numeral

def isDigit (c : Char) : Bool := '0' ≤ c && c ≤ '9'

def digit (c : Char) : Nat := c.toNat - '0'.toNat

/-- The digits before the point. A zero that comes first is the only one; a wrong first character is
taken. -/
def readWhole (cut : Cause) : Reader (List Char)
  | [] => .error (.here cut [])
  | '0' :: s =>
    match s with
    | c :: _ => if isDigit c then .error (.peek (refuse .invalidNumber) s) else .ok (['0'], s)
    | [] => .ok (['0'], s)
  | c :: s =>
    if isDigit c then .ok (c :: s.takeWhile isDigit, s.dropWhile isDigit)
    else .error (.behind (refuse .invalidNumber) (c :: s) 1)

def readFraction (cut : Cause) : Reader (Option (List Char))
  | '.' :: s =>
    match s with
    | [] => .error (.peek cut [])
    | c :: _ =>
      if isDigit c then .ok (some (s.takeWhile isDigit), s.dropWhile isDigit)
      else .error (.peek (refuse .invalidNumber) s)
  | s => .ok (none, s)

def readSign : List Char → Bool × List Char
  | '+' :: s => (false, s)
  | '-' :: s => (true, s)
  | s => (false, s)

/-- The sign and the digits of an exponent; at least one digit is needed, and a wrong character in
its place is taken. -/
def readExponent (cut : Cause) : Reader (Option (Bool × List Char)) := fun s =>
  let digits (s : List Char) : Except Fault (Option (Bool × List Char) × List Char) :=
    match readSign s with
    | (_, []) => .error (.here cut [])
    | (negative, c :: s) =>
      if isDigit c then .ok (some (negative, c :: s.takeWhile isDigit), s.dropWhile isDigit)
      else .error (.behind (refuse .invalidNumber) (c :: s) 1)
  match s with
  | 'e' :: s => digits s
  | 'E' :: s => digits s
  | s => .ok (none, s)

/-- A numeral whose sign was read. `cut` is the cause told where the text ends in the middle. -/
def read (cut : Cause) (negative : Bool) : Reader Numeral := fun s => do
  let (whole, s) ← readWhole cut s
  let (fraction, s) ← readFraction cut s
  let (exponent, s) ← readExponent cut s
  .ok (⟨negative, whole, fraction, exponent⟩, s)

/-- Appends digits to a number while it stays at or below a limit; the second part counts the digits
left over. -/
def gather (limit : Nat) : Nat → List Char → Nat × Nat
  | n, [] => (n, 0)
  | n, c :: cs =>
    if 10 * n + digit c ≤ limit then gather limit (10 * n + digit c) cs else (n, (c :: cs).length)

def maxUnsigned : Nat := UInt64.size - 1

def maxExponent : Nat := UInt32.size / 2 - 1

/-- `x * 10 ^ exponent` in floating point, a power of at most 308 at a time; none if that is too
large. -/
def scaleFloat : Nat → Float → Int → Option Float
  | 0, x, _ => some x
  | tries + 1, x, exponent =>
    if exponent.natAbs ≤ 308 then
      let power := Float.ofScientific 1 false exponent.natAbs
      if 0 ≤ exponent then
        let y := x * power
        if y.isInf then none else some y
      else some (x / power)
    else if x == 0.0 then some x
    else if 0 ≤ exponent then none
    else scaleFloat tries (x / Float.ofScientific 1 false 308) (exponent + 308)

/-- The exponent of a numeral, at most of 32 bits; the failure tells how many of its digits were
left when it grew too large. -/
def exponentValue (exponent : Option (Bool × List Char)) : Except Nat Int :=
  match exponent with
  | none => .ok 0
  | some (negative, digits) =>
    match gather maxExponent 0 digits with
    | (n, 0) => .ok (if negative then -(n : Int) else n)
    | (_, left) => .error (left - 1)

/-- The number that a numeral denotes. Too large a number is refused, with the count of digits that
were not needed to see that. -/
def value? (n : Numeral) : Except Nat Number :=
  let (significand, dropped) := gather maxUnsigned 0 n.whole
  let sign (x : Float) : Number := .float (if n.negative then -x else x)
  let finish (significand : Nat) (exponent : Int) : Except Nat Number :=
    match scaleFloat 8 (Float.ofNat significand) exponent with
    | some x => .ok (sign x)
    | none => .error 0
  match n.fraction, n.exponent, dropped with
  | none, none, 0 =>
    if n.negative then
      if significand = 0 ∨ UInt64.size / 2 < significand then .ok (sign (Float.ofNat significand))
      else .ok (.integer (-(significand : Int)))
    else .ok (.integer significand)
  | fraction, exponent, dropped =>
    let digits := fraction.getD []
    let (significand, left) := gather maxUnsigned significand digits
    let point : Int := (dropped : Int) - ((digits.length - left : Nat) : Int)
    match exponentValue exponent with
    | .ok e => finish significand (point + e)
    | .error left =>
      match exponent with
      | some (false, _) => if significand = 0 then .ok (sign 0.0) else .error left
      | _ => .ok (sign 0.0)

end Numeral

def readNumber (negative : Bool) : Reader Number := fun s => do
  let (numeral, rest) ← Numeral.read (.unfinished .value) negative s
  match numeral.value? with
  | .ok n => .ok (n, rest)
  | .error left =>
    .error ⟨refuse .numberOutOfRange, some (byteLength rest + left)⟩

def passNumber (negative : Bool) : Reader Unit := fun s => do
  let (_, rest) ← Numeral.read (refuse .invalidNumber) negative s
  .ok ((), rest)

end ServerKeeper.Json
