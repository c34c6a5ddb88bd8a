import ServerKeeper.Decimal.Shortest

namespace ServerKeeper.Decimal.Printed

def roundedQuotient (n d : Nat) : Nat :=
  let q := n / d
  let r := n % d
  if 2 * r < d then q else if d < 2 * r then q + 1 else if q % 2 = 0 then q else q + 1

inductive Magnitude
  | finite (r : Ratio)
  | infinite
  | notANumber

def isNegative (x : Float) : Bool := signUnit ≤ x.toBits.toNat

def magnitude (x : Float) : Magnitude :=
  let raw := x.toBits.toNat % signUnit
  if raw / exponentUnit = 0x7ff then if raw % exponentUnit = 0 then .infinite else .notANumber
  else
    match Binary.ofBits? x.toBits with
    | some b => .finite (Ratio.ofPowers b.significand b.exponent 0)
    | none => .finite ⟨0, 1⟩

def zeros (n : Nat) : String := String.ofList (List.replicate n '0')

def padded (width n : Nat) : String :=
  let digits := toString n
  zeros (width - digits.length) ++ digits

def fixedPlaces (r : Ratio) (places : Nat) (keepsPoint : Bool) : String :=
  let n := roundedQuotient (r.numerator * Nat.pow 10 places) r.denominator
  let whole := toString (n / Nat.pow 10 places)
  if places = 0 then if keepsPoint then whole ++ "." else whole
  else whole ++ "." ++ padded places (n % Nat.pow 10 places)

def leadingExponent (r : Ratio) : Int :=
  let estimate : Int := (toString r.numerator).length - (toString r.denominator).length
  let reaches (e : Int) : Bool :=
    (Ratio.ofPowers r.denominator 0 e).numerator * 1 ≤
      r.numerator * (Ratio.ofPowers r.denominator 0 e).denominator
  if reaches (estimate + 1) then estimate + 1 else if reaches estimate then estimate
    else estimate - 1

def scientific (r : Ratio) (places : Nat) : Nat × Int :=
  if r.numerator = 0 then (0, 0)
  else
    let e := leadingExponent r
    let s := Ratio.ofPowers r.numerator 0 (places - e)
    let n := roundedQuotient s.numerator (s.denominator * r.denominator)
    if n = Nat.pow 10 (places + 1) then (n / 10, e + 1) else (n, e)

def exponentText (mark : Char) (e : Int) : String :=
  mark.toString ++ (if e < 0 then "-" else "+") ++ padded 2 e.natAbs

def withExponent (r : Ratio) (places : Nat) (keepsPoint : Bool) (mark : Char) : String :=
  let (n, e) := scientific r places
  let digits := padded (places + 1) n
  let point := if places = 0 && !keepsPoint then "" else "."
  (digits.take 1).toString ++ point ++ (digits.drop 1).toString ++ exponentText mark e

def trimmed (s : String) : String :=
  if s.contains '.' then
    let cs := s.toList.reverse.dropWhile (· == '0')
    let cs := match cs with
      | '.' :: rest => rest
      | cs => cs
    String.ofList cs.reverse
  else s

def general (r : Ratio) (digits : Nat) (keepsZeros : Bool) (mark : Char) : String :=
  let digits := max digits 1
  let (n, e) := scientific r (digits - 1)
  if e < -4 || e ≥ digits then
    let all := padded digits n
    let text := (all.take 1).toString ++ "." ++ (all.drop 1).toString
    (if keepsZeros then text else trimmed text) ++ exponentText mark e
  else
    let text := fixedPlaces r (digits - 1 - e).toNat keepsZeros
    if keepsZeros then text else trimmed text

def formatted (x : Float) (letter : Char) (precision : Option Nat) (alternate : Bool) : String :=
  let upper := letter.isUpper
  let cased (s : String) : String := if upper then s.toUpper else s
  match magnitude x with
  | .infinite => cased "inf"
  | .notANumber => cased "nan"
  | .finite r =>
    let places := precision.getD 6
    match letter.toLower with
    | 'f' => fixedPlaces r places alternate
    | 'e' => withExponent r places alternate letter
    | _ => general r places alternate (if upper then 'E' else 'e')

end ServerKeeper.Decimal.Printed
