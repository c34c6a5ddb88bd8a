namespace ServerKeeper.Decimal.Scanned

def digitsValue (cs : List Char) : Nat := cs.foldl (fun n c => 10 * n + (c.toNat - 48)) 0

def hexValue (c : Char) : Nat := if c.isDigit then c.toNat - 48 else c.toLower.toNat - 87

def isHex (c : Char) : Bool := c.isDigit || 'a' ≤ c.toLower && c.toLower ≤ 'f'

def hexNumber (digits : List Char) : Nat := digits.foldl (fun n c => 16 * n + hexValue c) 0

def scannedExponent (letter : Char) (cs : List Char) : Int × List Char :=
  match cs with
  | c :: rest =>
    if c.toLower ≠ letter then (0, cs)
    else
      let (negative, digits) :=
        match rest with
        | '-' :: rest => (true, rest)
        | '+' :: rest => (false, rest)
        | rest => (false, rest)
      let ds := digits.takeWhile Char.isDigit
      if ds.isEmpty then (0, cs)
      else
        let n : Int := min (digitsValue ds) 100000
        (if negative then -n else n, digits.drop ds.length)
  | [] => (0, [])

def scaled (n : Nat) (e : Int) : Float :=
  if n = 0 then 0.0
  else if e > 400 then 1.0 / 0.0
  else if e < -2000 && (toString n).length < 1000 then 0.0
  else Float.ofScientific n (e < 0) e.natAbs

def scannedDecimal? (cs : List Char) : Option (Float × List Char) :=
  let whole := cs.takeWhile Char.isDigit
  let rest := cs.drop whole.length
  let (places, rest') :=
    match rest with
    | '.' :: more =>
      let ds := more.takeWhile Char.isDigit
      (ds, more.drop ds.length)
    | rest => ([], rest)
  if whole.isEmpty && places.isEmpty then none
  else
    let (e, rest) := scannedExponent 'e' rest'
    some (scaled (digitsValue (whole ++ places)) (e - places.length), rest)

def scannedHex? (cs : List Char) : Option (Float × List Char) :=
  let whole := cs.takeWhile isHex
  let (places, rest) :=
    match cs.drop whole.length with
    | '.' :: more =>
      let ds := more.takeWhile isHex
      (ds, more.drop ds.length)
    | rest => ([], rest)
  if whole.isEmpty && places.isEmpty then none
  else
    let n := hexNumber (whole ++ places)
    let (e, rest) := scannedExponent 'p' rest
    let e := e - 4 * places.length
    let x := Float.scaleB (Float.ofNat n) e
    some (x, rest)

def scannedMagnitude? (cs : List Char) : Option (Float × List Char) :=
  let lower := String.ofList ((cs.take 8).map Char.toLower)
  if lower.startsWith "infinity" then some (1.0 / 0.0, cs.drop 8)
  else if lower.startsWith "inf" then some (1.0 / 0.0, cs.drop 3)
  else if lower.startsWith "nan" then some (0.0 / 0.0, cs.drop 3)
  else
    match cs with
    | '0' :: x :: rest =>
      if x = 'x' || x = 'X' then (scannedHex? rest).orElse fun _ => some (0.0, x :: rest)
      else scannedDecimal? cs
    | cs => scannedDecimal? cs

/-- The number at the start of a text, behind blanks and perhaps a sign, and what follows. -/
def number? (cs : List Char) : Option (Float × List Char) :=
  let cs := cs.dropWhile fun c => c == ' ' || '\t' ≤ c && c ≤ '\x0d'
  match cs with
  | '-' :: rest => (scannedMagnitude? rest).map fun (x, rest) => (-x, rest)
  | '+' :: rest => scannedMagnitude? rest
  | cs => scannedMagnitude? cs

end ServerKeeper.Decimal.Scanned
