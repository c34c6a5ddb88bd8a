import ServerKeeper.Decimal.Printed
import ServerKeeper.Decimal.Scanned
import ServerKeeper.Shell.Arithmetic

namespace ServerKeeper.Shell.Format

def named : List (Char × Char) :=
  [('\\', '\\'), ('a', '\x07'), ('b', '\x08'), ('e', '\x1b'), ('f', '\x0c'), ('n', '\n'),
   ('r', '\r'), ('t', '\t'), ('v', '\x0b')]

def isOctal (c : Char) : Bool := '0' ≤ c && c ≤ '7'

def octal (digits : List Char) : Char :=
  Char.ofNat (digits.foldl (fun n c => 8 * n + (c.toNat - 48)) 0 % 256)

/-- The character that an escape stands for, and what follows it. Behind the backslash there is a
letter, or up to three octal digits; otherwise the backslash stands for itself. -/
def escape (cs : List Char) : Char × List Char :=
  match cs with
  | [] => ('\\', [])
  | c :: rest =>
    match named.lookup c with
    | some d => (d, rest)
    | none =>
      let digits := (cs.take 3).takeWhile isOctal
      if digits.isEmpty then ('\\', cs) else (octal digits, cs.drop digits.length)

/-- A text with its escapes carried out, the last character first, and whether one of them ends all
output. -/
def unescapeOnto : Nat → List Char → List Char → List Char × Bool
  | 0, acc, _ | _, acc, [] => (acc, false)
  | fuel + 1, acc, '\\' :: rest =>
    let escaped (rest : List Char) : List Char × Bool :=
      let (c, rest) := escape rest
      unescapeOnto fuel (c :: acc) rest
    match rest with
    | 'c' :: _ => (acc, true)
    | '0' :: d :: more => escaped (if isOctal d then d :: more else rest)
    | rest => escaped rest
  | fuel + 1, acc, c :: rest => unescapeOnto fuel (c :: acc) rest

def unescaped (s : String) : List Char × Bool :=
  let (cs, ended) := unescapeOnto s.length [] s.toList
  (cs.reverse, ended)

def echo (arguments : List String) : String :=
  let (bare, words) :=
    match arguments with
    | "-n" :: words => (true, words)
    | words => (false, words)
  let text := " ".intercalate words
  if text.contains '\\' then
    let (cs, ended) := unescaped text
    String.ofList cs ++ if bare || ended then "" else "\n"
  else if bare then text
  else text ++ "\n"

structure Layout where
  flags : List Char
  width : Nat
  precision : Option Nat

namespace Layout

def has (l : Layout) (flag : Char) : Bool := l.flags.contains flag

def pad (l : Layout) (cs : List Char) : List Char :=
  let blanks := List.replicate (l.width - cs.length) ' '
  if l.has '-' then cs ++ blanks else blanks ++ cs

def text (l : Layout) (cs : List Char) : List Char :=
  l.pad (l.precision.elim cs cs.take)

def sign (l : Layout) (negative : Bool) : List Char :=
  if negative then ['-']
  else if l.has '+' then ['+']
  else if l.has ' ' then [' ']
  else []

def digits (l : Layout) (before digits : List Char) (zeroFills : Bool) : List Char :=
  let zeros :=
    if zeroFills && l.has '0' && !l.has '-' then l.width - before.length - digits.length else 0
  l.pad (before ++ List.replicate zeros '0' ++ digits)

/-- The digits of a whole number, as many as the precision asks for; none for a zero of none. -/
def wholeDigits (l : Layout) (n : Nat) (base : Nat) : List Char :=
  let ds := Nat.toDigits base n
  match l.precision with
  | some p => if n = 0 && p = 0 then [] else List.replicate (p - ds.length) '0' ++ ds
  | none => ds

def signed (l : Layout) (n : Int) : List Char :=
  l.digits (l.sign (n < 0)) (l.wholeDigits n.natAbs 10) l.precision.isNone

def unsigned (l : Layout) (letter : Char) (n : Nat) : List Char :=
  match letter with
  | 'o' =>
    let ds := l.wholeDigits n 8
    let ds := if l.has '#' && ds.head? ≠ some '0' then '0' :: ds else ds
    l.digits [] ds l.precision.isNone
  | 'x' =>
    let before := if l.has '#' && n ≠ 0 then ['0', 'x'] else []
    l.digits before (l.wholeDigits n 16) l.precision.isNone
  | 'X' =>
    let before := if l.has '#' && n ≠ 0 then ['0', 'X'] else []
    l.digits before ((l.wholeDigits n 16).map Char.toUpper) l.precision.isNone
  | _ => l.digits [] (l.wholeDigits n 10) l.precision.isNone

def float (l : Layout) (letter : Char) (x : Float) : List Char :=
  let body := (Decimal.Printed.formatted x letter l.precision (l.has '#')).toList
  let isFinite := body.head?.any Char.isDigit
  l.digits (l.sign (Decimal.Printed.isNegative x)) body isFinite

end Layout

/-- What was printed so far, the arguments that are left, and the arguments that were no numbers. -/
structure Progress where
  printed : List Char
  arguments : List String
  complaints : List String
  ended : Bool
  fault : Option String

namespace Progress

def take (p : Progress) : Option String × Progress :=
  match p.arguments with
  | [] => (none, p)
  | a :: rest => (some a, { p with arguments := rest })

def print (p : Progress) (cs : List Char) : Progress :=
  { p with printed := cs.reverse ++ p.printed }

def complain (p : Progress) (text : String) : Progress :=
  { p with complaints := p.complaints ++ [text] }

def checked (p : Progress) (a : String) (found : Bool) (rest : List Char) : Progress :=
  if rest.isEmpty && found then p
  else if !found then p.complain (a ++ ": expected numeric value")
  else p.complain (a ++ ": not completely converted")

/-- The number that the next argument denotes, between bounds. A character behind a quote stands for
its code. -/
def number (p : Progress) (least greatest : Int) : Int × Progress :=
  match p.take with
  | (none, p) => (0, p)
  | (some a, p) =>
    match a.toList with
    | '\'' :: rest | '"' :: rest => (((rest.head?.map Char.toNat).getD 0 : Nat), p)
    | cs =>
      let cs := cs.dropWhile Arithmetic.isSpace
      let (negative, digits) :=
        match cs with
        | '-' :: cs => (true, cs)
        | '+' :: cs => (false, cs)
        | cs => (false, cs)
      if digits.head?.any Char.isDigit then
        let (n, rest) := Arithmetic.constant digits
        let value : Int := if negative then -n else n
        let outOfRange :=
          if least = 0 then (greatest : Int) < n else value < least || greatest < value
        let bounded := if least = 0 then min (n : Int) greatest else max least (min value greatest)
        let result := if least = 0 && negative && !outOfRange then value else bounded
        if !rest.isEmpty then (result, p.checked a true rest)
        else if outOfRange then (result, p.complain (a ++ ": Numerical result out of range"))
        else (result, p)
      else (0, if a.isEmpty then p else p.checked a false [])

def float (p : Progress) : Float × Progress :=
  match p.take with
  | (none, p) => (0.0, p)
  | (some a, p) =>
    match a.toList with
    | '\'' :: rest | '"' :: rest => (Float.ofNat ((rest.head?.map Char.toNat).getD 0), p)
    | cs =>
      match Decimal.Scanned.number? cs with
      | some (x, rest) => (x, p.checked a true rest)
      | none => (0.0, if a.isEmpty then p else p.checked a false [])

end Progress

def greatestUnsigned : Int := Nat.pow 2 64 - 1

def convert (l : Layout) (conversion : Char) (p : Progress) : Option Progress :=
  match conversion with
  | 's' =>
    let (a, p) := p.take
    some (p.print (l.text (a.getD "").toList))
  | 'b' =>
    let (a, p) := p.take
    let (cs, ended) := unescaped (a.getD "")
    some { p.print (l.text cs) with ended }
  | 'c' =>
    let (a, p) := p.take
    some (p.print (l.pad [(a.bind (·.toList.head?)).getD '\x00']))
  | 'd' | 'i' =>
    let (n, p) := p.number (-(Nat.pow 2 63)) (Nat.pow 2 63 - 1)
    some (p.print (l.signed n))
  | 'u' | 'o' | 'x' | 'X' =>
    let (n, p) := p.number 0 greatestUnsigned
    some (p.print (l.unsigned conversion (n % (greatestUnsigned + 1)).toNat))
  | 'e' | 'E' | 'f' | 'F' | 'g' | 'G' =>
    let (x, p) := p.float
    some (p.print (l.float conversion x))
  | _ => none

def measure (cs : List Char) (p : Progress) : Option Int × List Char × Progress :=
  match cs with
  | '*' :: rest =>
    let (n, p) := p.number (-(Nat.pow 2 31)) (Nat.pow 2 31 - 1)
    (some n, rest, p)
  | cs =>
    let digits := cs.takeWhile Char.isDigit
    (if digits.isEmpty then none else (String.ofList digits).toInt?, cs.drop digits.length, p)

def pass : Nat → List Char → Progress → Progress
  | 0, _, p | _, [], p => p
  | fuel + 1, '\\' :: rest, p =>
    let (c, rest) := escape rest
    pass fuel rest (p.print [c])
  | fuel + 1, '%' :: '%' :: rest, p => pass fuel rest (p.print ['%'])
  | fuel + 1, '%' :: rest, p =>
    let isFlag (c : Char) : Bool := "#-+ 0".contains c
    let flags := rest.takeWhile isFlag
    let (width, after, p) := measure (rest.drop flags.length) p
    let (precision, after, p) :=
      match after with
      | '.' :: after =>
        let (n, after, p) := measure after p
        (some (n.getD 0), after, p)
      | after => (none, after, p)
    let width := width.getD 0
    let layout : Layout :=
      { flags := if width < 0 then '-' :: flags else flags
        width := width.natAbs
        precision := precision.bind fun n => if n < 0 then none else some n.toNat }
    match after with
    | conversion :: after =>
      match convert layout conversion p with
      | some p => if p.ended then p else pass fuel after p
      | none =>
        let shown := '%' :: rest.take (rest.length - after.length)
        { p with fault := some (String.ofList shown ++ ": invalid directive"), ended := true }
    | [] => { p with fault := some "missing format character", ended := true }
  | fuel + 1, c :: rest, p => pass fuel rest (p.print [c])

def passes : Nat → List Char → Progress → Progress
  | 0, _, p => p
  | fuel + 1, format, p =>
    let next := pass format.length format p
    if next.ended || next.arguments.isEmpty || next.arguments.length = p.arguments.length then next
    else passes fuel format next

def printf (format : String) (arguments : List String) : Progress :=
  passes (arguments.length + 1) format.toList ⟨[], arguments, [], false, none⟩

def Progress.text (p : Progress) : String := String.ofList p.printed.reverse

end ServerKeeper.Shell.Format
