import ServerKeeper.Decimal.Printed
import ServerKeeper.Decimal.Scanned
import ServerKeeper.Tool.Amounts

namespace ServerKeeper.Tool

structure Exact where
  digits : Int
  places : Nat

namespace Exact

def raise (x : Exact) (places : Nat) : Int := x.digits * Nat.pow 10 (places - x.places)

def compare (x y : Exact) : Ordering :=
  let places := max x.places y.places
  Ord.compare (x.raise places) (y.raise places)

def lt (x y : Exact) : Bool := x.compare y == .lt

def step (x y : Exact) (n : Nat) : Exact :=
  let places := max x.places y.places
  ⟨x.raise places + n * y.raise places, places⟩

def magnitude (x : Exact) : Decimal.Ratio := ⟨x.digits.natAbs, Nat.pow 10 x.places⟩

/-- A decimal number that is all of a text: digits, perhaps with a sign, a point and an exponent. -/
def ofText? (text : String) : Option Exact :=
  let cs := text.toList.dropWhile isLeadingBlank
  let (negative, cs) :=
    match cs with
    | '-' :: cs => (true, cs)
    | '+' :: cs => (false, cs)
    | cs => (false, cs)
  let whole := cs.takeWhile Char.isDigit
  let rest := cs.drop whole.length
  let (places, rest) :=
    match rest with
    | '.' :: more =>
      let ds := more.takeWhile Char.isDigit
      (ds, more.drop ds.length)
    | rest => ([], rest)
  let (e, rest) := Decimal.Scanned.scannedExponent 'e' rest
  if whole.isEmpty && places.isEmpty || !rest.isEmpty then none
  else
    let n : Int := Decimal.Scanned.digitsValue (whole ++ places)
    let n := if negative then -n else n
    let scale : Int := places.length - e
    some (if scale ≥ 0 then ⟨n, scale.toNat⟩ else ⟨n * Nat.pow 10 (-scale).toNat, 0⟩)

def ofHex? (text : String) : Option Exact := do
  match text.toList with
  | '0' :: 'x' :: cs =>
    let isHex := Decimal.Scanned.isHex
    let whole := cs.takeWhile isHex
    let rest := cs.drop whole.length
    let (places, rest) :=
      match rest with
      | '.' :: more => (more.takeWhile isHex, more.dropWhile isHex)
      | rest => ([], rest)
    let (e, rest) := Decimal.Scanned.scannedExponent 'p' rest
    if whole.isEmpty && places.isEmpty || !rest.isEmpty then none
    else
      let n := Decimal.Scanned.hexNumber (whole ++ places)
      let e := e - 4 * (places.length : Int)
      some (if e < 0 then ⟨n * Nat.pow 5 (-e).toNat, (-e).toNat⟩ else ⟨n * Nat.pow 2 e.toNat, 0⟩)
  | _ => none

end Exact

end ServerKeeper.Tool
