import ServerKeeper.Shell.Format
import ServerKeeper.Tool.Calendar
import ServerKeeper.Tool.Lines

namespace ServerKeeper.Tool.Printing

open Job Host
open Shell.Format (Layout)
open Decimal.Scanned (isHex hexNumber)

def escape (cs : List Char) : Char × List Char :=
  match cs with
  | 'x' :: rest =>
    let digits := (rest.take 2).takeWhile isHex
    if digits.isEmpty then ('\\', cs) else (Char.ofNat (hexNumber digits), rest.drop digits.length)
  | _ => Shell.Format.escape cs

/-- A text with its escapes carried out, and whether one of them ends all output. An octal number
may have a zero in front of its three digits. -/
def unescapeOnto : Nat → List Char → List Char → List Char × Bool
  | 0, acc, _ | _, acc, [] => (acc, false)
  | fuel + 1, acc, '\\' :: rest =>
    match rest with
    | 'c' :: _ => (acc, true)
    | '0' :: more =>
      let digits := (more.take 3).takeWhile Shell.Format.isOctal
      unescapeOnto fuel (Shell.Format.octal digits :: acc) (more.drop digits.length)
    | rest =>
      let (c, rest) := escape rest
      unescapeOnto fuel (c :: acc) rest
  | fuel + 1, acc, c :: rest => unescapeOnto fuel (c :: acc) rest

def unescaped (s : String) : String × Bool :=
  let (cs, ended) := unescapeOnto s.length [] s.toList
  (String.ofList cs.reverse, ended)

def isEchoOption (a : String) : Bool :=
  a.startsWith "-" && a.length > 1 && (a.drop 1).all fun c => c == 'n' || c == 'e' || c == 'E'

def echo : Utility where
  name := "echo"
  operands := "[SHORT-OPTION]... [STRING]..."
  work arguments := do
    answerSole arguments
    let options := arguments.takeWhile isEchoOption
    let words := arguments.drop options.length
    let letters := (String.join options).toList
    let escapes := (letters.reverse.find? fun c => c == 'e' || c == 'E') == some 'e'
    let text := " ".intercalate words
    let (text, ended) := if escapes then unescaped text else (text, false)
    print (if ended || letters.contains 'n' then text else text ++ "\n")

def requoted (a : String) : String :=
  if a.isEmpty then "''" else ShownPath.plain a

structure Progress where
  arguments : List String
  ended : Bool

def checkNumber (a : String) (found outOfRange : Bool) (rest : List Char) : Job Unit := do
  let shown := ShownPath.literal a
  if outOfRange then complain (shown ++ ": Numerical result out of range")
  else if !rest.isEmpty then
    if found then complain (shown ++ ": value not completely converted")
    else complain (shown ++ ": expected a numeric value")

def quotedCode? (a : String) : Option (Nat × Bool) :=
  match a.toList with
  | c :: d :: rest => if c == '"' || c == '\'' then some (d.toNat, rest.isEmpty) else none
  | _ => none

def warnCode (a : String) (isAll : Bool) : Job Unit := do
  unless isAll do
    tell ((← get).name ++ ": warning: " ++ (a.drop 2).toString ++
      ": character(s) following character constant have been ignored\n")

def wholeNumber (a : String) (isSigned : Bool) : Job Int := do
  match quotedCode? a with
  | some (n, isAll) =>
    warnCode a isAll
    return n
  | none =>
    let cs := a.toList.dropWhile Shell.Arithmetic.isSpace
    let (negative, digits) :=
      match cs with
      | '-' :: cs => (true, cs)
      | '+' :: cs => (false, cs)
      | cs => (false, cs)
    if digits.head?.any Char.isDigit then
      let (n, rest) := Shell.Arithmetic.constant digits
      let value : Int := if negative then -n else n
      let least : Int := -(Nat.pow 2 63)
      let greatest : Int := if isSigned then Nat.pow 2 63 - 1 else Nat.pow 2 64 - 1
      let outOfRange := if isSigned then value < least || greatest < value else greatest < (n : Int)
      checkNumber a true outOfRange rest
      return if isSigned then max least (min value greatest)
        else if outOfRange then greatest
        else value
    else
      checkNumber a false false a.toList
      return 0

def floatNumber (a : String) : Job Float := do
  match quotedCode? a with
  | some (n, isAll) =>
    warnCode a isAll
    return Float.ofNat n
  | none =>
    match Decimal.Scanned.number? a.toList with
    | some (x, rest) =>
      checkNumber a true false rest
      return x
    | none =>
      checkNumber a false false a.toList
      return 0.0

def universalText (n : Nat) : String :=
  let digits (most : Nat) : String :=
    Calendar.filled '0' most (String.ofList ((Nat.toDigits 16 n).map Char.toUpper))
  if n < 128 then (Char.ofNat n).toString
  else if n < 0x10000 then "\\u" ++ digits 4
  else "\\U" ++ digits 8

/-- What an escape in a format stands for, its backslash being read, and what follows it; nothing
where it ends all output. Four or eight digits tell the number of a character. -/
def formatEscape (rest : List Char) : Job (Option (String × List Char)) := do
  let universal (letter : Char) (length : Nat) (more : List Char) :
      Job (Option (String × List Char)) := do
    let digits := (more.take length).takeWhile isHex
    let n := hexNumber digits
    if digits.length < length then fail "missing hexadecimal number in escape"
    else if 0xd800 ≤ n && n ≤ 0xdfff then
      fail ("invalid universal character name \\" ++ letter.toString ++
        String.ofList (digits.map Char.toLower))
    else return some (universalText n, more.drop length)
  match rest with
  | 'c' :: _ => return none
  | '"' :: more => return some ("\"", more)
  | 'u' :: more => universal 'u' 4 more
  | 'U' :: more => universal 'U' 8 more
  | 'x' :: more =>
    if more.head?.any isHex then
      let (c, more) := escape rest
      return some (c.toString, more)
    else fail "missing hexadecimal number in escape"
  | rest =>
    let (c, more) := escape rest
    return some (c.toString, more)

/-- Prints a text with its escapes carried out. Tells whether one of them ends all output. An octal
number may have a zero in front of its three digits. -/
def printEscaped : Nat → List Char → Job Bool
  | 0, _ | _, [] => return false
  | fuel + 1, '\\' :: '0' :: more => do
    let digits := (more.take 3).takeWhile Shell.Format.isOctal
    print (Shell.Format.octal digits).toString
    printEscaped fuel (more.drop digits.length)
  | fuel + 1, '\\' :: rest => do
    match ← formatEscape rest with
    | some (text, rest) =>
      print text
      printEscaped fuel rest
    | none => return true
  | fuel + 1, c :: rest => do
    print c.toString
    printEscaped fuel rest

def convert (l : Layout) (conversion : Char) (a : String) : Job Bool := do
  match conversion with
  | 's' =>
    print (String.ofList (l.text a.toList))
    return false
  | 'c' =>
    print (String.ofList (l.pad [a.toList.headD '\x00']))
    return false
  | 'b' => printEscaped (a.length + 1) a.toList
  | 'q' =>
    print (requoted a)
    return false
  | 'd' | 'i' =>
    print (String.ofList (l.signed (← wholeNumber a true)))
    return false
  | 'u' | 'o' | 'x' | 'X' =>
    let n ← wholeNumber a false
    print (String.ofList (l.unsigned conversion (n % (Nat.pow 2 64)).toNat))
    return false
  | _ =>
    print (String.ofList (l.float conversion (← floatNumber a)))
    return false

def takeArgument (p : Progress) : String × Progress :=
  match p.arguments with
  | [] => ("", p)
  | a :: rest => (a, { p with arguments := rest })

def measure (cs : List Char) (p : Progress) : Job (Option Int × List Char × Progress) := do
  match cs with
  | '*' :: rest =>
    let (a, p) := takeArgument p
    return (some (← wholeNumber a true), rest, p)
  | cs =>
    let digits := cs.takeWhile Char.isDigit
    let n? := if digits.isEmpty then none else (String.ofList digits).toInt?
    return (n?, cs.drop digits.length, p)

def allowed (flags : List Char) : List Char :=
  let apt (c : Char) : Bool :=
    flags.all fun f =>
      match f with
      | '#' => "oxXaAeEfFgG".contains c
      | '0' => "dioxXuaAeEfFgG".contains c
      | '+' | ' ' => "diaAeEfFgG".contains c
      | '\'' | 'I' => "diufFgG".contains c
      | _ => true
  "diouxXfFeEgGaAcs".toList.filter apt

def pass : Nat → List Char → Progress → Job Progress
  | 0, _, p | _, [], p => return p
  | fuel + 1, '\\' :: rest, p => do
    match ← formatEscape rest with
    | some (text, rest) =>
      print text
      pass fuel rest p
    | none => return { p with ended := true }
  | fuel + 1, '%' :: '%' :: rest, p => do
    print "%"
    pass fuel rest p
  | fuel + 1, '%' :: rest, p => do
    let flags := rest.takeWhile fun c => "#-+ 0'I".contains c
    let (width, after, p) ← measure (rest.drop flags.length) p
    let (precision, after, p) ←
      match after with
      | '.' :: after => do
        let (n, after, p) ← measure after p
        pure (some (n.getD 0), after, p)
      | after => pure (none, after, p)
    let width := width.getD 0
    let layout : Layout :=
      { flags := if width < 0 then '-' :: flags else flags
        width := width.natAbs
        precision := precision.bind fun n => if n < 0 then none else some n.toNat }
    let isBare := after.length = rest.length
    let after := after.dropWhile fun c => "lLhjtz".contains c
    let malformed : Job Progress :=
      fail (String.ofList ('%' :: rest.take (rest.length - after.length + 1)) ++
        ": invalid conversion specification")
    match after with
    | [] => malformed
    | conversion :: after =>
      if (allowed flags).contains conversion && !(conversion == 'c' && precision.isSome) ||
          (conversion == 'b' || conversion == 'q') && isBare then
        let (a, p) := takeArgument p
        if ← convert layout conversion a then return { p with ended := true }
        else pass fuel after p
      else malformed
  | fuel + 1, c :: rest, p => do
    print c.toString
    pass fuel rest p

def passes : Nat → List Char → Progress → Job Progress
  | 0, _, p => return p
  | fuel + 1, format, p => do
    let next ← pass (format.length + 1) format p
    if next.ended || next.arguments.isEmpty || next.arguments.length = p.arguments.length then
      return next
    else passes fuel format next

def printf : Utility where
  name := "printf"
  operands := "FORMAT [ARGUMENT]..."
  work arguments := do
    answerSole arguments
    let arguments := if arguments.head? = some "--" then arguments.drop 1 else arguments
    match arguments with
    | [] => misuse "missing operand"
    | format :: arguments =>
      let p ← passes (arguments.length + 1) format.toList ⟨arguments, false⟩
      if !p.ended && !p.arguments.isEmpty && p.arguments.length = arguments.length then
        tell ((← get).name ++ ": warning: ignoring excess arguments, starting with " ++
          ShownPath.literal (p.arguments.headD "") ++ "\n")

def repeatLine (line : String) : Nat → Job Unit
  | 0 => pure ()
  | fuel + 1 => do
    print line
    repeatLine line fuel

def yes : Utility where
  name := "yes"
  operands := "[STRING]..."
  work arguments := do
    let t := OptionTable.ofTexts "" [] false 1
    let (_, words) ← t.parse arguments
    let line := (if words.isEmpty then "y" else " ".intercalate words) ++ "\n"
    let count := max 1 (8192 / line.length)
    repeatLine (String.join (List.replicate count line)) maxRounds

def succeed : Utility where
  name := "true"
  operands := "[ignored command line arguments]"
  work := answerSole

def doNotSucceed : Utility where
  name := "false"
  operands := "[ignored command line arguments]"
  work arguments := do
    setStatus 1
    answerSole arguments

def withoutSlashes (path : String) : String :=
  let kept := path.toList.reverse.dropWhile (· == '/')
  if kept.isEmpty then (path.take 1).toString else String.ofList kept.reverse

def baseName (path : String) : String :=
  let path := withoutSlashes path
  if path == "/" then path
  else String.ofList (path.toList.reverse.takeWhile (· != '/')).reverse

def directoryName (path : String) : String :=
  let trimmed := path.toList.reverse.dropWhile (· == '/')
  let above := trimmed.dropWhile (· != '/')
  let kept := above.dropWhile (· == '/')
  if !kept.isEmpty then String.ofList kept.reverse
  else if path.startsWith "/" then "/"
  else "."

def withoutEnding (base ending : String) : String :=
  if !ending.isEmpty && base.endsWith ending && base != ending && base != "/" then
    (base.dropEnd ending.length).toString
  else base

def basename : Utility where
  name := "basename"
  operands := "NAME [SUFFIX]"
  work arguments := do
    let t := OptionTable.ofTexts "as:z" ["multiple a", "suffix= s", "zero z"] false 1
    let (found, paths) ← t.parse arguments
    let mark := if Chosen.has found "z" then "\x00" else "\n"
    let ending := (Chosen.value? found "s").getD ""
    let isMany := Chosen.has found "a" || Chosen.has found "s"
    match paths with
    | [] => misuse "missing operand"
    | [path] => print (withoutEnding (baseName path) ending ++ mark)
    | path :: second :: more =>
      if isMany then
        for path in paths do print (withoutEnding (baseName path) ending ++ mark)
      else
        match more with
        | [] => print (withoutEnding (baseName path) second ++ mark)
        | extra :: _ => misuse ("extra operand " ++ ShownPath.literal extra)

def dirname : Utility where
  name := "dirname"
  operands := "[OPTION] NAME..."
  work arguments := do
    let t := OptionTable.ofTexts "z" ["zero z"] false 1
    let (found, paths) ← t.parse arguments
    let mark := if Chosen.has found "z" then "\x00" else "\n"
    if paths.isEmpty then misuse "missing operand"
    for path in paths do print (directoryName path ++ mark)

end ServerKeeper.Tool.Printing
