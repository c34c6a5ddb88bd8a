import ServerKeeper.Regex.Reading
import ServerKeeper.Shell.Format
import ServerKeeper.Tool.Exact
import ServerKeeper.Tool.Lines

namespace ServerKeeper.Tool

open Job Host

namespace Calculating

/-- An operand of `seq`: its value, or none if it has no bound, its width, and how many places it
has. -/
structure Operand where
  value : Option Exact
  isNegative : Bool
  width : Int
  places : Option Nat

def withExponent (text : String) (width : Int) (places fraction : Nat) : Int × Nat :=
  let cs := text.toList
  let before := cs.takeWhile fun c => c != 'e' && c != 'E'
  let after := cs.drop (before.length + 1)
  if before.length = cs.length then (width, places)
  else
    let exponent : Int :=
      ((String.ofList (if after.head? = some '+' then after.drop 1 else after)).toInt?).getD 0
    let hasPoint := before.contains '.'
    let width := width - (cs.length - before.length)
    if exponent < 0 then
      let n := exponent.natAbs
      let more : Int := if hasPoint then if before.getLast? = some '.' then 1 else 0 else 1
      (width + more + n, places + n)
    else
      let n := exponent.toNat
      let places' := places - min places n
      let less : Int := if hasPoint && places' = 0 && fraction > 0 then 1 else 0
      (width - less + (n - min fraction n : Nat), places')

def operand (text : String) : Job Operand := do
  let trimmed := text.toList.dropWhile fun c => Shell.Arithmetic.isSpace c || c = '+'
  let shown := String.ofList trimmed
  match Exact.ofText? text with
  | some x =>
    let (before, after) := (trimmed.takeWhile (· != '.'), trimmed.dropWhile (· != '.'))
    let fraction := ((after.drop 1).takeWhile fun c => c != 'e' && c != 'E').length
    let width : Int :=
      if after.isEmpty then trimmed.length
      else
        trimmed.length + if fraction = 0 then -1
          else if before.isEmpty || !before.getLast?.any Char.isDigit then 1 else 0
    let (width, places) := withExponent shown width fraction fraction
    return ⟨some x, shown.startsWith "-", width, some places⟩
  | none =>
    let lower := shown.toLower
    let bare := if lower.startsWith "-" then (lower.drop 1).toString else lower
    if let some x := Exact.ofHex? bare then
      let x := if lower.startsWith "-" then { x with digits := -x.digits } else x
      let places := if lower.contains '.' || lower.contains 'p' then none else some 0
      return ⟨some x, lower.startsWith "-", 0, places⟩
    else if bare == "inf" || bare == "infinity" then
      return ⟨none, lower.startsWith "-", 0, some 0⟩
    else if bare == "nan" then
      misuse ("invalid 'not-a-number' argument: " ++ ShownPath.literal text)
    else misuse ("invalid floating point argument: " ++ ShownPath.literal text)

structure Form where
  before : String
  flags : String
  width : Nat
  precision : Option Nat
  letter : Char
  after : String

def formText (f : Form) (isNegative : Bool) (r : Decimal.Ratio) : String :=
  let places := f.precision.getD 6
  let body :=
    match f.letter.toLower with
    | 'f' => Decimal.Printed.fixedPlaces r places (f.flags.contains '#')
    | 'e' => Decimal.Printed.withExponent r places (f.flags.contains '#') f.letter
    | _ =>
      Decimal.Printed.general r places (f.flags.contains '#') (if f.letter = 'G' then 'E' else 'e')
  let layout : Shell.Format.Layout := ⟨f.flags.toList, f.width, none⟩
  String.ofList (layout.digits (layout.sign isNegative) body.toList true)

def formOf (format : String) : Job Form := do
  let shown := ShownPath.literal format
  let rec literal : List Char → List Char → List Char × List Char
    | '%' :: '%' :: rest, acc => literal rest ('%' :: acc)
    | '%' :: rest, acc => (acc.reverse, '%' :: rest)
    | c :: rest, acc => literal rest (c :: acc)
    | [], acc => (acc.reverse, [])
  let (before, rest) := literal format.toList []
  match rest with
  | [] => fail ("format " ++ shown ++ " has no % directive")
  | _ :: rest =>
    let flags := rest.takeWhile fun c => "-+#0 '".contains c
    let rest := rest.drop flags.length
    let width := rest.takeWhile Char.isDigit
    let rest := rest.drop width.length
    let (precision, rest) :=
      match rest with
      | '.' :: rest =>
        let ds := rest.takeWhile Char.isDigit
        (some (Decimal.Scanned.digitsValue ds), rest.drop ds.length)
      | rest => (none, rest)
    let rest := if rest.head? = some 'L' then rest.drop 1 else rest
    match rest with
    | [] => fail ("format " ++ shown ++ " ends in %")
    | letter :: rest =>
      if !"efgaEFGA".contains letter then
        fail ("format " ++ shown ++ " has unknown %" ++ letter.toString ++ " directive")
      else
        let (after, more) := literal rest []
        if !more.isEmpty then fail ("format " ++ shown ++ " has too many % directives")
        else
          return ⟨String.ofList before, String.ofList flags, Decimal.Scanned.digitsValue width,
            precision, letter, String.ofList after⟩

def usualForm (first step last : Operand) (equalWidth : Bool) : Form :=
  match first.places, step.places, last.places with
  | some p, some q, some r =>
    let places := max p q
    let width : Int :=
      if equalWidth then
        let firstWidth := first.width + (places - p : Nat) + if p = 0 && places > 0 then 1 else 0
        let lastWidth := last.width + ((places : Int) - r) +
          (if r > 0 && places = 0 then -1 else 0) + if r = 0 && places > 0 then 1 else 0
        max firstWidth lastWidth
      else 0
    ⟨"", if equalWidth then "0" else "", width.toNat, some places, 'f', ""⟩
  | _, _, _ => ⟨"", "", 0, none, 'g', ""⟩

/-- Prints numbers up to the last one. A number just above it is printed too if it looks like the
last one and not like the one before. -/
def printRow (f : Form) (first step : Exact) (last : Option Exact) (startsNegative : Bool)
    (separator : String) : Nat → Nat → Job Unit
  | 0, _ => pure ()
  | fuel + 1, n => do
    let text (n : Nat) : String :=
      let x := first.step step n
      formText f (x.digits < 0 || n = 0 && startsNegative) x.magnitude
    let isBeyond (x : Exact) : Bool :=
      last.any fun last => if step.digits < 0 then x.lt last else last.lt x
    let shown := text n
    print (f.before ++ shown ++ f.after)
    if isBeyond (first.step step (n + 1)) then
      let next := text (n + 1)
      let looksLast :=
        match Exact.ofText? next, last with
        | some x, some last => x.compare last == .eq
        | _, _ => false
      if looksLast && next != shown then print (separator ++ f.before ++ next ++ f.after)
      print "\n"
    else
      print separator
      printRow f first step last startsNegative separator fuel (n + 1)

def marked : List String → List String
  | a :: rest =>
    if a.startsWith "-" && !a.startsWith "--" && (a.endsWith "s" || a.endsWith "f") then
      match rest with
      | value :: rest => a :: value :: marked rest
      | [] => [a]
    else
      match a.toList with
      | '-' :: c :: _ =>
        if c = '.' || c.isDigit then "--" :: a :: rest
        else if a == "--" then a :: rest
        else a :: marked rest
      | _ => "--" :: a :: rest
  | [] => []

def seq : Utility where
  name := "seq"
  operands := "[OPTION]... LAST"
  work arguments := do
    let t := OptionTable.ofTexts "f:s:w" ["format= f", "separator= s", "equal-width w"] false 1
    let (found, operands) ← t.parse (marked arguments)
    let form? ← (Chosen.value? found "f").mapM formOf
    if form?.isSome && Chosen.has found "w" then
      misuse "format string may not be specified when printing equal width strings"
    let separator := (Chosen.value? found "s").getD "\n"
    let one : Operand := ⟨some ⟨1, 0⟩, false, 1, some 0⟩
    let (first, step, last) ←
      match operands with
      | [] => misuse "missing operand"
      | [last] => pure (one, one, ← operand last)
      | [first, last] => do
        let first ← operand first
        pure (first, one, ← operand last)
      | [first, step, last] => do
        let first ← operand first
        let increment ← operand step
        if increment.value.any (·.digits == 0) then
          misuse ("invalid Zero increment value: " ++ ShownPath.literal step)
        pure (first, increment, ← operand last)
      | _ :: _ :: _ :: extra :: _ => misuse ("extra operand " ++ ShownPath.literal extra)
    let form := form?.getD (usualForm first step last (Chosen.has found "w"))
    match first.value, step.value with
    | some x, some y =>
      let isNone :=
        match last.value with
        | some z => if y.digits < 0 then x.lt z else z.lt x
        | none => (y.digits < 0) != last.isNegative
      if !isNone then
        printRow form x y last.value (first.isNegative && x.digits == 0) separator maxRounds 0
    | _, _ => pure ()

inductive Value
  | number (n : Int)
  | text (s : String)

namespace Value

def shown : Value → String
  | number n => toString n
  | text s => s

def isNumeral (s : String) : Bool :=
  let ds := if s.startsWith "-" then (s.drop 1).toString else s
  !ds.isEmpty && ds.all Char.isDigit

def number? : Value → Option Int
  | number n => some n
  | text s => if isNumeral s then s.toInt? else none

def isNull : Value → Bool
  | number n => n == 0
  | text s =>
    s.isEmpty ||
      let ds := if s.startsWith "-" then (s.drop 1).toString else s
      !ds.isEmpty && ds.all (· == '0')

end Value

structure Words where
  left : List String
  last : String

abbrev Calculation := StateT Words Job

namespace Calculation

def refuse {α : Type} (text : String) : Calculation α := StateT.lift (failWith 2 text)

def refuseForm {α : Type} (text : String) : Calculation α :=
  refuse ("syntax error: " ++ text)

def accept (word : String) : Calculation Bool := do
  match (← get).left with
  | w :: rest =>
    if w == word then
      set ({ left := rest, last := w } : Words)
      return true
    else return false
  | [] => return false

def acceptAny : List String → Calculation (Option String)
  | [] => return none
  | word :: rest => do
    if ← accept word then return some word else acceptAny rest

def demand : Calculation Unit := do
  let s ← get
  if s.left.isEmpty then
    refuseForm ("missing argument after " ++ ShownPath.literal s.last)

def takeWord : Calculation String := do
  demand
  let s ← get
  let w := s.left.headD ""
  set ({ left := s.left.drop 1, last := w } : Words)
  return w

/-- What matching a text against an expression comes to: its first group, or how much was matched.
-/
def matched (text pattern : String) : Calculation Value := do
  match Regex.read { Regex.Dialect.plainBasic with allowsEmptyRanges := true } false pattern with
  | .error fault => refuse fault.text
  | .ok (c, _) =>
    let cs := text.toList.toArray
    match c.matchAt? cs 0 with
    | none => return if c.groups > 0 then .text "" else .number 0
    | some m =>
      if c.groups > 0 then
        match m.group? 1 with
        | some (a, b) => return .text (Regex.slice cs a b)
        | none => return .text ""
      else return .number (m.stop : Int)

def arithmetic (op : String) (a b : Value) : Calculation Value := do
  match a.number?, b.number? with
  | some m, some n =>
    match op with
    | "+" => return .number (m + n)
    | "-" => return .number (m - n)
    | "*" => return .number (m * n)
    | _ =>
      if n = 0 then refuse "division by zero"
      else return .number (if op == "/" then m.tdiv n else m.tmod n)
  | _, _ => refuse "non-integer argument"

def compare (op : String) (a b : Value) : Value :=
  let order : Ordering :=
    match Value.number? a, Value.number? b with
    | some m, some n => Ord.compare m n
    | _, _ => Ord.compare a.shown b.shown
  let holds : Bool :=
    match op with
    | "<" => order == .lt
    | "<=" => order != .gt
    | "=" | "==" => order == .eq
    | "!=" => order != .eq
    | ">=" => order != .lt
    | _ => order == .gt
  .number (if holds then 1 else 0)

mutual

/-- Words joined by operators; the level tells which ones, the loosest first. Values that do not
matter are not worked out. -/
def level : Nat → Nat → Bool → Calculation Value
  | 0, _, _ => refuse "memory exhausted"
  | fuel + 1, n, counts => do
    if n ≥ 6 then simple fuel counts
    else
      let first ← level fuel (n + 1) counts
      more fuel n counts first

def more : Nat → Nat → Bool → Value → Calculation Value
  | 0, _, _, _ => refuse "memory exhausted"
  | fuel + 1, n, counts, a => do
    match n with
    | 0 =>
      if ← accept "|" then
        let b ← level fuel 1 (counts && a.isNull)
        let r := if a.isNull then if b.isNull then .number 0 else b else a
        more fuel n counts r
      else return a
    | 1 =>
      if ← accept "&" then
        let b ← level fuel 2 (counts && !a.isNull)
        more fuel n counts (if a.isNull || b.isNull then .number 0 else a)
      else return a
    | 2 => operators fuel n counts a ["<=", "<", "==", "=", "!=", ">=", ">"]
    | 3 => operators fuel n counts a ["+", "-"]
    | 4 => operators fuel n counts a ["*", "/", "%"]
    | _ => operators fuel n counts a [":"]

def operators : Nat → Nat → Bool → Value → List String → Calculation Value
  | 0, _, _, _, _ => refuse "memory exhausted"
  | fuel + 1, n, counts, a, ops => do
    match ← acceptAny ops with
    | none => return a
    | some op =>
      let b ← level fuel (n + 1) counts
      let r ←
        if !counts then pure a
        else if n = 2 then pure (compare op a b)
        else if op == ":" then matched a.shown b.shown
        else arithmetic op a b
      operators fuel n counts r ops

def simple : Nat → Bool → Calculation Value
  | 0, _ => refuse "memory exhausted"
  | fuel + 1, counts => do
    demand
    if ← accept "+" then return .text (← takeWord)
    else if ← accept "length" then
      let a ← simple fuel counts
      return .number (a.shown.length : Int)
    else if ← accept "match" then
      let a ← simple fuel counts
      let b ← simple fuel counts
      if counts then matched a.shown b.shown else return a
    else if ← accept "index" then
      let a ← simple fuel counts
      let b ← simple fuel counts
      let place := a.shown.toList.findIdx? fun c => b.shown.contains c
      return .number (place.elim 0 fun i => (i : Int) + 1)
    else if ← accept "substr" then
      let a ← simple fuel counts
      let i ← simple fuel counts
      let n ← simple fuel counts
      match i.number?, n.number? with
      | some i, some n =>
        if i < 1 || n < 1 then return .text ""
        else return .text ((a.shown.drop (i.toNat - 1)).take n.toNat).toString
      | _, _ => return .text ""
    else if ← accept "(" then
      let a ← level fuel 0 counts
      let s ← get
      if s.left.isEmpty then
        refuseForm ("expecting ')' after " ++ ShownPath.literal s.last)
      if ← accept ")" then return a
      else refuseForm ("expecting ')' instead of " ++ ShownPath.literal (s.left.headD ""))
    else if ← accept ")" then refuseForm "unexpected ')'"
    else return .text (← takeWord)

end

end Calculation

def expr : Utility where
  name := "expr"
  operands := "EXPRESSION"
  work arguments := do
    answerSole arguments
    let words := if arguments.head? = some "--" then arguments.drop 1 else arguments
    if words.isEmpty then misuseWith 2 "missing operand"
    let fuel := 16 * words.length + 16
    let (v, s) ← (Calculation.level fuel 0 true).run ⟨words, ""⟩
    match s.left with
    | w :: _ => failWith 2 ("syntax error: unexpected argument " ++ ShownPath.literal w)
    | [] =>
      print (v.shown ++ "\n")
      if v.isNull then setStatus 1

def factorsFrom : Nat → Nat → Nat → List Nat
  | 0, _, n => [n]
  | fuel + 1, d, n =>
    if n < 2 then []
    else if n < d * d then [n]
    else if n % d = 0 then d :: factorsFrom fuel d (n / d)
    else factorsFrom fuel (if d = 2 then 3 else d + 2) n

def factor : Utility where
  name := "factor"
  operands := "[OPTION] [NUMBER]..."
  work arguments := do
    let t := OptionTable.ofTexts "h" ["exponents h"] true 1
    let (found, words) ← t.parse arguments
    let words ←
      if words.isEmpty then do
        match ← readRest 0 with
        | .ok text =>
          pure ((text.split Char.isWhitespace).toList.map (·.toString) |>.filter (· ≠ ""))
        | .error _ => pure []
      else pure words
    for word in words do
      match natural? word with
      | some n =>
        let factors := factorsFrom maxRounds 2 n
        let shown (p : Nat) : String :=
          let k := factors.count p
          " " ++ toString p ++ if k > 1 then "^" ++ toString k else ""
        let shown :=
          if found.isEmpty then factors.map fun p => " " ++ toString p
          else factors.eraseDups.map shown
        print (toString n ++ ":" ++ String.join shown ++ "\n")
      | none => complain (ShownPath.literal word ++ " is not a valid positive integer")

end Calculating

end ServerKeeper.Tool
