namespace ServerKeeper.Decimal

/-- A finite number above zero: `significand * 2 ^ exponent`. `evenGap` tells whether the next lower
number is as far away as the next higher one. -/
structure Binary where
  significand : Nat
  exponent : Int
  evenGap : Bool

def signUnit : Nat := 0x8000000000000000

def exponentUnit : Nat := 0x10000000000000

/-- Takes a number of 64 bits apart, leaving out its sign; zero and what is not finite have no
parts. -/
def Binary.ofBits? (bits : UInt64) : Option Binary :=
  let raw : Nat := bits.toNat % signUnit
  let field : Nat := raw / exponentUnit
  let fraction : Nat := raw % exponentUnit
  if field = 0x7ff then none
  else if field = 0 then
    if fraction = 0 then none else some ⟨fraction, -1074, true⟩
  else some ⟨exponentUnit + fraction, (field : Int) - 1075, fraction ≠ 0 || field = 1⟩

structure Ratio where
  numerator : Nat
  denominator : Nat

namespace Ratio

def ofPowers (n : Nat) (two ten : Int) : Ratio :=
  ⟨n * Nat.pow 2 two.toNat * Nat.pow 10 ten.toNat, Nat.pow 2 (-two).toNat * Nat.pow 10 (-ten).toNat⟩

def le (a b : Ratio) : Bool := a.numerator * b.denominator ≤ b.numerator * a.denominator

def lt (a b : Ratio) : Bool := a.numerator * b.denominator < b.numerator * a.denominator

def floor (a : Ratio) : Nat := a.numerator / a.denominator

def distance (a : Ratio) (n : Nat) : Nat :=
  (a.numerator - n * a.denominator) + (n * a.denominator - a.numerator)

end Ratio

/-- Whether `digits * 10 ^ scale` rounds to the number: it lies between the midpoints to both
neighbours, and may be a midpoint only if the significand is even. -/
def readsBack (b : Binary) (digits : Nat) (scale : Int) : Bool :=
  let value := Ratio.ofPowers digits 0 scale
  let lower :=
    if b.evenGap then Ratio.ofPowers (2 * b.significand - 1) (b.exponent - 1) 0
    else Ratio.ofPowers (4 * b.significand - 1) (b.exponent - 2) 0
  let upper := Ratio.ofPowers (2 * b.significand + 1) (b.exponent - 1) 0
  if b.significand % 2 = 0 then lower.le value && value.le upper
  else lower.lt value && value.lt upper

/-- The neighbour on the grid of multiples of `10 ^ scale` that reads back, if one does; the nearer
if both do, and the even one of two that are equally near. -/
def onGrid? (b : Binary) (scale : Int) : Option Nat :=
  let scaled := Ratio.ofPowers b.significand b.exponent (-scale)
  let below := scaled.floor
  let above := below + 1
  match readsBack b below scale, readsBack b above scale with
  | true, true =>
    let near := scaled.distance below
    let far := scaled.distance above
    if near < far || near = far && below % 2 = 0 then some below else some above
  | true, false => some below
  | false, true => some above
  | false, false => none

def magnitude (b : Binary) : Int :=
  let guess := ((Nat.log2 b.significand : Int) + b.exponent) * 30103 / 100000
  let reaches (e : Int) : Bool :=
    (Ratio.ofPowers 1 0 e).le (Ratio.ofPowers b.significand b.exponent 0)
  if reaches (guess + 1) then guess + 1 else if reaches guess then guess else guess - 1

def search (b : Binary) (top : Int) : Nat → Nat → Nat × Int
  | 0, _ => (b.significand, 0)
  | tries + 1, digits =>
    let scale := top - digits
    match onGrid? b scale with
    | some n => if n = 0 then search b top tries (digits + 1) else (n, scale)
    | none => search b top tries (digits + 1)

def shortest (b : Binary) : Nat × Int :=
  search b (magnitude b) 18 0

def dropZeros : Nat → Nat → Int → Nat × Int
  | 0, n, scale => (n, scale)
  | tries + 1, n, scale =>
    if n ≠ 0 ∧ n % 10 = 0 then dropZeros tries (n / 10) (scale + 1) else (n, scale)

/-- Where a decimal is written out in full: at least one digit stands on each side of the point. -/
def positional (digits : List Char) (scale : Int) : List Char :=
  if 0 ≤ scale then digits ++ List.replicate scale.toNat '0' ++ ['.', '0']
  else
    let places := (-scale).toNat
    if places < digits.length then
      digits.take (digits.length - places) ++ '.' :: digits.drop (digits.length - places)
    else '0' :: '.' :: List.replicate (places - digits.length) '0' ++ digits

/-- Where a decimal is written with an exponent: a point stands only before further digits, and the
exponent has its sign. -/
def scientific (digits : List Char) (exponent : Int) : List Char :=
  let point :=
    match digits with
    | first :: second :: rest => first :: '.' :: second :: rest
    | digits => digits
  point ++ 'e' :: (if exponent < 0 then '-' else '+') :: (toString exponent.natAbs).toList

/-- The text of a finite number: written out where the exponent of its first digit is from -5 to 15.
-/
def render (x : Float) : String :=
  let bits := x.toBits
  let sign := if bits.toNat < signUnit then [] else ['-']
  let body :=
    match Binary.ofBits? bits with
    | none => ['0', '.', '0']
    | some b =>
      let (n, scale) := shortest b
      let (n, scale) := dropZeros 20 n scale
      let digits := (toString n).toList
      let exponent := scale + digits.length - 1
      if -5 ≤ exponent ∧ exponent ≤ 15 then positional digits scale
      else scientific digits exponent
  String.ofList (sign ++ body)

end ServerKeeper.Decimal
