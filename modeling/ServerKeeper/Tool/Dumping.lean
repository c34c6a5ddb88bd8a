import ServerKeeper.Shell.Format
import ServerKeeper.Text.Lossy
import ServerKeeper.Tool.Lines

namespace ServerKeeper.Tool.Dumping

open Job Host

inductive Form
  | signed
  | plain
  | octal
  | hexadecimal
  | float
  | name
  | character
  deriving DecidableEq

/-- A way to show bytes: so many of them at once, perhaps with the characters behind the line. -/
structure Format where
  form : Form
  size : Nat
  isTrailed : Bool

def Format.width (f : Format) : Nat :=
  let among (one two four eight : Nat) : Nat :=
    match f.size with
    | 1 => one
    | 2 => two
    | 4 => four
    | _ => eight
  match f.form with
  | .signed => among 4 6 11 20
  | .plain => among 3 5 10 20
  | .octal => among 3 6 11 22
  | .hexadecimal => among 2 4 8 16
  | .float => among 15 15 15 24
  | .name | .character => 3

def controlNames : Array String :=
  #["nul", "soh", "stx", "etx", "eot", "enq", "ack", "bel", "bs", "ht", "nl", "vt", "ff", "cr",
    "so", "si", "dle", "dc1", "dc2", "dc3", "dc4", "nak", "syn", "etb", "can", "em", "sub", "esc",
    "fs", "gs", "rs", "us", "sp"]

def nameOf (n : Nat) : String :=
  let n := n % 128
  if n = 127 then "del" else (controlNames[n]?).getD (Char.ofNat n).toString

def characterOf (n : Nat) : String :=
  let named :=
    [(0, "\\0"), (7, "\\a"), (8, "\\b"), (9, "\\t"), (10, "\\n"), (11, "\\v"), (12, "\\f"),
    (13, "\\r")]
  match named.lookup n with
  | some text => text
  | none =>
    if 32 ≤ n && n < 127 then (Char.ofNat n).toString
    else
      let digits := String.ofList (Nat.toDigits 8 n)
      String.ofList (List.replicate (3 - digits.length) '0') ++ digits

def floatText (least : Nat) (readsBack : Float → Bool) (x : Float) : String :=
  let with_ (n : Nat) : String :=
    String.ofList (Shell.Format.Layout.float ⟨[], 0, some n⟩ 'g' x)
  let value (text : String) : Float := (Decimal.Scanned.number? text.toList).elim 0 (·.1)
  let counts := (List.range (18 - least)).map (least + ·)
  match counts.find? fun n => readsBack (value (with_ n)) with
  | some n => with_ n
  | none => with_ 17

def Format.show (f : Format) (n : Nat) : String :=
  let bits := 8 * f.size
  match f.form with
  | .signed => toString (if n ≥ Nat.pow 2 (bits - 1) then (n : Int) - Nat.pow 2 bits else n)
  | .plain => toString n
  | .octal =>
    let digits := String.ofList (Nat.toDigits 8 n)
    String.ofList (List.replicate (f.width - digits.length) '0') ++ digits
  | .hexadecimal =>
    let digits := String.ofList (Nat.toDigits 16 n)
    String.ofList (List.replicate (f.width - digits.length) '0') ++ digits
  | .float =>
    if f.size = 4 then
      let x := Float32.ofBits (UInt32.ofNat n)
      let isTiny := n / Nat.pow 2 23 % Nat.pow 2 8 = 0
      floatText (if isTiny then 1 else 6) (fun y => y.toFloat32.toBits == x.toBits) x.toFloat
    else
      let x := Float.ofBits (UInt64.ofNat n)
      let isTiny := n / Nat.pow 2 52 % Nat.pow 2 11 = 0
      floatText (if isTiny then 1 else 15) (fun y => y.toBits == x.toBits) x
  | .name => nameOf n
  | .character => characterOf n

inductive Address
  | octal
  | decimal
  | hexadecimal
  | none
  deriving DecidableEq

def Address.show (a : Address) (n : Nat) : String :=
  let padded (width : Nat) (digits : List Char) : String :=
    String.ofList (List.replicate (width - digits.length) '0' ++ digits)
  match a with
  | octal => padded 7 (Nat.toDigits 8 n)
  | decimal => padded 7 (Nat.toDigits 10 n)
  | hexadecimal => padded 6 (Nat.toDigits 16 n)
  | none => ""

structure Look where
  formats : List Format
  address : Address
  width : Nat
  showsAll : Bool
  isBig : Bool

def Look.room (k : Look) (f : Format) : Nat := k.width / f.size * (f.width + 1)

def Look.widest (k : Look) : Nat := k.formats.foldl (fun n f => max n (k.room f)) 0

def values (isBig : Bool) (size : Nat) (bytes : List Nat) : Nat → List Nat
  | 0 => []
  | fuel + 1 =>
    if bytes.isEmpty then []
    else
      let own := bytes.take size ++ List.replicate (size - bytes.length) 0
      let own := if isBig then own else own.reverse
      own.foldl (fun n b => 256 * n + b) 0 :: values isBig size (bytes.drop size) fuel

def Look.body (k : Look) (f : Format) (bytes : List Nat) : String :=
  let fields := k.width / f.size
  let extra := k.widest - k.room f
  let vs := values k.isBig f.size bytes (bytes.length + 1)
  let before (i : Nat) : Nat := extra * i / fields
  let cells := vs.zipIdx.map fun (v, i) =>
    let j := fields - i
    let pad := before j - before (j - 1)
    " " ++ rightAligned (f.width + pad) (f.show v)
  let text := String.join cells
  if f.isTrailed then
    let blank := fields - vs.length
    let missing := blank * (f.width + 1) + extra * blank / fields
    let shown := bytes.map fun n => if 32 ≤ n && n < 127 then Char.ofNat n else '.'
    text ++ String.ofList (List.replicate missing ' ') ++ "  >" ++ String.ofList shown ++ "<"
  else text

def Look.block (k : Look) (at_ : Nat) (bytes : List Nat) : String :=
  let indent := String.ofList (List.replicate (k.address.show 0).length ' ')
  String.join (k.formats.zipIdx.map fun (f, i) =>
    (if i = 0 then k.address.show at_ else indent) ++ k.body f bytes ++ "\n")

def printAll (k : Look) : Nat → Nat → Option (List Nat) → Bool → List Nat → Job Nat
  | 0, at_, _, _, _ => return at_
  | fuel + 1, at_, before, isSkipping, bytes => do
    if bytes.isEmpty then return at_
    else
      let own := bytes.take k.width
      let rest := bytes.drop k.width
      if !k.showsAll && own.length = k.width && before = some own then
        unless isSkipping do print "*\n"
        printAll k fuel (at_ + own.length) before true rest
      else
        print (k.block at_ own)
        printAll k fuel (at_ + own.length) (some own) false rest

def printTexts (a : Address) (least : Nat) : Nat → Nat → List Nat → Job Unit
  | 0, _, _ => pure ()
  | fuel + 1, at_, bytes => do
    if bytes.isEmpty then pure ()
    else
      let own := bytes.takeWhile fun n => 32 ≤ n && n < 127
      let rest := bytes.drop own.length
      if rest.head? = some 0 && own.length ≥ least then
        let blank := if a = .none then "" else " "
        print (a.show at_ ++ blank ++ String.ofList (own.map Char.ofNat) ++ "\n")
      printTexts a least fuel (at_ + own.length + 1) (rest.drop 1)

def quantity? (text : String) : Option Nat :=
  let cs := text.toList
  let counted (base : Nat) (isDigit : Char → Bool) (cs : List Char) : Option Nat :=
    let ds := cs.takeWhile isDigit
    let suffix := cs.drop ds.length
    if ds.isEmpty || suffix.head?.any (!"bEGKkMmPQRTYZ".contains ·) then none
    else
      (multiplier? suffix).map fun m =>
        m * ds.foldl (fun n c => base * n + Decimal.Scanned.hexValue c) 0
  match cs with
  | '0' :: x :: rest =>
    if x = 'x' || x = 'X' then counted 16 Decimal.Scanned.isHex rest
    else if Shell.Format.isOctal x then counted 8 Shell.Format.isOctal (x :: rest)
    else counted 10 Char.isDigit cs
  | _ => counted 10 Char.isDigit cs

def formats (whole : String) : Nat → List Char → Job (List Format)
  | 0, _ | _, [] => return []
  | fuel + 1, c :: rest => do
    let finish (form : Form) (size : Nat) (rest : List Char) : Job (List Format) := do
      match rest with
      | 'z' :: rest => return ⟨form, size, true⟩ :: (← formats whole fuel rest)
      | rest => return ⟨form, size, false⟩ :: (← formats whole fuel rest)
    let sized (form : Form) (usual : Nat) (letters : List (Char × Nat)) (kind : String) :
        Job (List Format) := do
      match rest with
      | l :: more =>
        match letters.lookup l with
        | some n => finish form n more
        | none =>
          let ds := rest.takeWhile Char.isDigit
          if ds.isEmpty then finish form usual rest
          else
            let n := ((String.ofList ds).toNat?).getD 0
            if (letters.map (·.2)).contains n then finish form n (rest.drop ds.length)
            else
              fail ("invalid type string " ++ ShownPath.literal whole ++
                ";\nthis system doesn't provide a " ++ toString n ++ "-byte " ++ kind ++ " type")
      | [] => finish form usual rest
    let integers := [('C', 1), ('S', 2), ('I', 4), ('L', 8)]
    match c with
    | 'd' => sized .signed 4 integers "integral"
    | 'u' => sized .plain 4 integers "integral"
    | 'o' => sized .octal 4 integers "integral"
    | 'x' => sized .hexadecimal 4 integers "integral"
    | 'f' => sized .float 8 [('F', 4), ('D', 8)] "floating point"
    | 'a' => finish .name 1 rest
    | 'c' => finish .character 1 rest
    | c =>
      fail ("invalid character '" ++ c.toString ++ "' in type string " ++ ShownPath.literal whole)

def brief : List (String × Format) :=
  [("a", ⟨.name, 1, false⟩), ("b", ⟨.octal, 1, false⟩), ("c", ⟨.character, 1, false⟩),
   ("d", ⟨.plain, 2, false⟩), ("f", ⟨.float, 4, false⟩), ("i", ⟨.signed, 4, false⟩),
   ("l", ⟨.signed, 8, false⟩), ("o", ⟨.octal, 2, false⟩), ("s", ⟨.signed, 2, false⟩),
   ("x", ⟨.hexadecimal, 2, false⟩), ("h", ⟨.hexadecimal, 2, false⟩), ("e", ⟨.float, 8, false⟩),
   ("B", ⟨.octal, 2, false⟩), ("D", ⟨.plain, 4, false⟩), ("F", ⟨.float, 8, false⟩),
   ("H", ⟨.hexadecimal, 4, false⟩), ("I", ⟨.signed, 8, false⟩), ("L", ⟨.signed, 8, false⟩),
   ("O", ⟨.octal, 4, false⟩), ("X", ⟨.hexadecimal, 4, false⟩)]

def gathered : List String → Job (String × Bool)
  | [] => return ("", false)
  | path :: rest => do
    let (text, isThere) ←
      match ← readInput path with
      | .ok text => pure (text, true)
      | .error fault =>
        complain (about path fault)
        pure ("", fault = .isADirectory)
    let (more, others) ← gathered rest
    return (text ++ more, isThere || others)

def amount (found : List Chosen) (key : String) : Job (Option Nat) := do
  match Chosen.value? found key with
  | none => return none
  | some text =>
    match quantity? text with
    | some n => return some n
    | none => fail ("invalid -" ++ key ++ " argument " ++ ShownPath.literal text)

def offset? (text : String) : Option Nat :=
  match text.toList with
  | '+' :: cs =>
    let digits := cs.takeWhile Char.isDigit
    let value (base : Nat) : Nat := digits.foldl (fun n c => base * n + (c.toNat - 48)) 0
    if digits.isEmpty then none
    else
      match cs.drop digits.length with
      | [] => some (value 8)
      | ['.'] => some (value 10)
      | ['b'] => some (512 * value 8)
      | _ => none
  | _ => none

def od : Utility where
  name := "od"
  work arguments := do
    let t := OptionTable.ofTexts "aA:bcdeFfHhIij:LlN:OoS:st:vw::XxBD"
      ["skip-bytes= j", "address-radix= A", "read-bytes= N", "format= t", "output-duplicates v",
       "strings? S", "traditional traditional", "width? w", "endian= endian"] true 1
    let (found, paths) ← t.parse arguments
    let mut chosen : List Format := []
    for (key, value) in found do
      if key == "t" then
        let text := value.getD ""
        chosen := chosen ++ (← formats text (text.length + 1) text.toList)
      else
        match brief.lookup key with
        | some f => chosen := chosen ++ [f]
        | none => pure ()
    let fs := if chosen.isEmpty then [⟨.octal, 2, false⟩] else chosen
    let address ←
      match Chosen.value? found "A" with
      | none => pure .octal
      | some text =>
        match text.toList.head? with
        | some 'o' => pure .octal
        | some 'd' => pure .decimal
        | some 'x' => pure .hexadecimal
        | some 'n' => pure Address.none
        | some c =>
          fail ("invalid output address radix '" ++ c.toString ++
            "'; it must be one character from [doxn]")
        | none =>
          fail "invalid output address radix '\x00'; it must be one character from [doxn]"
    let skipped ← amount found "j"
    let most ← amount found "N"
    let unit := fs.foldl (fun n f => Nat.lcm n f.size) 1
    let usual := if unit < 16 then unit * (16 / unit) else unit
    let width ←
      if Chosen.has found "w" then
        match Chosen.value? found "w" with
        | none => pure (if 32 % unit = 0 then 32 else unit)
        | some text =>
          match natural? text with
          | some n =>
            if n > 0 && n % unit = 0 then pure n
            else
              tell ((← get).name ++ ": warning: invalid width " ++ text ++ "; using " ++
                toString unit ++
                " instead\n")
              pure unit
          | none => fail ("invalid -w argument " ++ ShownPath.literal text)
      else pure usual
    let (paths, skipped) :=
      match paths.reverse with
      | last :: before =>
        match offset? last with
        | some n =>
          if skipped.isNone && before.length ≤ 1 then (before.reverse, some n) else (paths, skipped)
        | none => (paths, skipped)
      | [] => (paths, skipped)
    let (text, isThere) ← gathered (if paths.isEmpty then ["-"] else paths)
    if !isThere then throw 1
    let start := skipped.getD 0
    if text.length < start then fail "cannot skip past end of combined input"
    let bytes := ((text.drop start).toString.toList.map (·.toNat))
    let bytes := most.elim bytes bytes.take
    match (found.find? (·.1 == "S")) with
    | some (_, value) =>
      let least := (value.bind quantity?).getD 3
      printTexts address least (bytes.length + 1) start bytes
    | none =>
      let k : Look :=
        { formats := fs
          address
          width
          showsAll := Chosen.has found "v"
          isBig := (Chosen.value? found "endian").any (·.startsWith "b") }
      let last ← printAll k (bytes.length + 1) start none false bytes
      if address ≠ .none then print (address.show last ++ "\n")

end ServerKeeper.Tool.Dumping
