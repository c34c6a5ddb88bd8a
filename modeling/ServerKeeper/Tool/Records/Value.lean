import ServerKeeper.Decimal.Scanned
import ServerKeeper.Shell.Format

namespace ServerKeeper.Tool.Records

inductive Value
  | nothing
  | number (x : Float)
  | text (s : String)
  | input (s : String)

instance : Inhabited Value := ⟨.nothing⟩

namespace Value

def ofNat (n : Nat) : Value := .number (Float.ofNat n)

def ofBool (b : Bool) : Value := .number (if b then 1 else 0)

def leadingNumber (s : String) : Float := (Decimal.Scanned.number? s.toList).elim 0 (·.1)

def isBlank (c : Char) : Bool := c = ' ' || '\t' ≤ c && c ≤ '\r'

def wholeNumber? (s : String) : Option Float :=
  let cs := s.toList.dropWhile isBlank
  match cs with
  | c :: _ =>
    if c.isDigit || c = '+' || c = '-' || c = '.' then
      match Decimal.Scanned.number? cs with
      | some (x, rest) => if rest.all isBlank then some x else none
      | none => none
    else none
  | [] => none

def toNumber : Value → Float
  | nothing => 0
  | number x => x
  | text s | input s => leadingNumber s

def wholePart (x : Float) : Int :=
  if x.isNaN then -(Nat.pow 2 63)
  else if x < 0 then
    if x ≤ -9223372036854775808.0 then -(Nat.pow 2 63) + 1 else -(((-x).toUInt64).toNat : Int)
  else if x ≥ 18446744073709551616.0 then Nat.pow 2 64 - 1
  else (x.toUInt64.toNat : Int)

def wholeText? (x : Float) : Option String :=
  if x == x.floor && x ≥ -9223372036854775808.0 && x ≤ 18446744073709551616.0 then
    if x == -9223372036854775808.0 then some "-9223372036854775808"
    else some (toString (wholePart x))
  else none

structure Printing where
  printed : List String
  arguments : List Value
  count : Nat

abbrev Printer := StateT Printing (Except (String × String))

def isFlag (c : Char) : Bool := "#-+ 0".contains c

def isSize (c : Char) : Bool := c = 'h' || c = 'l' || c = 'L'

def printPiece (text : String) : Printer Unit :=
  modify fun p => { p with printed := text :: p.printed }

def stop {α : Type} (text : String) : Printer α := do
  throw (String.join (← get).printed.reverse, text)

def takeArgument (format : String) : Printer Value := do
  let p ← get
  match p.arguments with
  | a :: rest =>
    set { p with arguments := rest }
    return a
  | [] => stop ("not enough arguments passed to " ++ format)

def measure (format : String) (cs : List Char) : Printer (Option Int × List Char) := do
  match cs with
  | '*' :: rest =>
    let a ← takeArgument format
    return (some (wholePart a.toNumber), rest)
  | cs =>
    let ds := cs.takeWhile Char.isDigit
    return (if ds.isEmpty then none else (String.ofList ds).toInt?, cs.drop ds.length)

def numberText (format : List Char) (x : Float) : Option String :=
  match format with
  | '%' :: rest =>
    let flags := rest.takeWhile isFlag
    let rest := rest.drop flags.length
    let width := rest.takeWhile Char.isDigit
    let rest := rest.drop width.length
    let (precision, rest) :=
      match rest with
      | '.' :: more =>
        let ds := more.takeWhile Char.isDigit
        (some (((String.ofList ds).toNat?).getD 0), more.drop ds.length)
      | rest => (none, rest)
    let l : Shell.Format.Layout := ⟨flags, ((String.ofList width).toNat?).getD 0, precision⟩
    match rest with
    | letter :: rest =>
      if "eEfFgG".contains letter then
        some (String.ofList (l.float letter x) ++ String.ofList rest)
      else if letter = 'd' || letter = 'i' then
        some (String.ofList (l.signed (wholePart x)) ++ String.ofList rest)
      else none
    | [] => none
  | _ => none

def ofNumber (format : String) (x : Float) : String :=
  match wholeText? x with
  | some s => s
  | none =>
    if x.isNaN then "-nan"
    else
      let cs := format.toList
      let before := cs.takeWhile (· ≠ '%')
      String.ofList before ++ (numberText (cs.drop before.length) x).getD ""

def toText (format : String) : Value → String
  | nothing => ""
  | number x => ofNumber format x
  | text s | input s => s

def toCharacter (format : String) : Value → List Char
  | number x => [Char.ofNat ((wholePart x).toNat % 256)]
  | nothing => ['\x00']
  | v =>
    let number? := match v with
      | input s => wholeNumber? s
      | _ => none
    match number? with
    | some x => [Char.ofNat ((wholePart x).toNat % 256)]
    | none =>
      match (v.toText format).toList with
      | c :: _ => [c]
      | [] => ['\x00']

def convert (numbers : String) (l : Shell.Format.Layout) (letter : Char) (v : Value) :
    Option (List Char) :=
  match letter with
  | 's' => some (l.text (v.toText numbers).toList)
  | 'c' => some (l.pad (v.toCharacter numbers))
  | 'd' | 'i' => some (l.signed (wholePart v.toNumber))
  | 'o' | 'x' | 'X' | 'u' => some (l.unsigned letter ((wholePart v.toNumber) % Nat.pow 2 64).toNat)
  | 'e' | 'E' | 'f' | 'F' | 'g' | 'G' =>
    let x := v.toNumber
    if x.isNaN then some (l.digits ['-'] "nan".toList false) else some (l.float letter x)
  | _ => none

def printed (numbers shown : String) : Nat → List Char → Printer Unit
  | 0, _ | _, [] => pure ()
  | fuel + 1, '%' :: '%' :: rest => do
    printPiece "%"
    printed numbers shown fuel rest
  | fuel + 1, '%' :: rest => do
    modify fun p => { p with count := p.count + 1 }
    let flags := rest.takeWhile isFlag
    let (width, after) ← measure shown (rest.drop flags.length)
    let (precision, after) ←
      match after with
      | '.' :: after => do
        let (n, after) ← measure shown after
        pure (some (n.getD 0), after)
      | after => pure (none, after)
    let width := width.getD 0
    let l : Shell.Format.Layout :=
      { flags := if width < 0 then '-' :: flags else flags
        width := width.natAbs
        precision := precision.bind fun n => if n < 0 then none else some n.toNat }
    let v ← takeArgument shown
    match after.dropWhile isSize with
    | letter :: after =>
      match convert numbers l letter v with
      | some piece =>
        printPiece (String.ofList piece)
        printed numbers shown fuel after
      | none => improper
    | [] => improper
  | fuel + 1, cs => do
    let piece := cs.takeWhile (· ≠ '%')
    printPiece (String.ofList piece)
    printed numbers shown fuel (cs.drop piece.length)
where
  improper : Printer Unit := do
    stop ("improper conversion(number " ++ toString (← get).count ++ ") in " ++ shown)

/-- Values in a format; or what was printed of them, and what is wrong. The name is that of the
function that prints. -/
def formatted (name numbers format : String) (arguments : List Value) :
    Except (String × String) String := do
  let shown := name ++ "(\"" ++ format ++ "\")"
  let ((), p) ← (printed numbers shown (format.length + 1) format.toList).run ⟨[], arguments, 0⟩
  return String.join p.printed.reverse

def asNumber? : Value → Option Float
  | nothing => some 0
  | number x => some x
  | text _ => none
  | input s => wholeNumber? s

def isTrue (v : Value) : Bool :=
  match v with
  | nothing => false
  | number x => x != 0
  | text s => !s.isEmpty
  | input s => (wholeNumber? s).elim (!s.isEmpty) (· != 0)

def ordering (format : String) (a b : Value) : Ordering :=
  match a.asNumber?, b.asNumber? with
  | some x, some y => if x < y then .lt else if x > y then .gt else .eq
  | _, _ => compareOfLessAndEq (a.toText format) (b.toText format)

end Value

end ServerKeeper.Tool.Records
