import ServerKeeper.Tool.Exact
import ServerKeeper.Tool.Lines
import ServerKeeper.Tool.Versions

namespace ServerKeeper.Tool.Sorting

open Job Host
open ShownPath (literal plain quoted)

structure Kind where
  skipsStart : Bool
  skipsStop : Bool
  dictionary : Bool
  foldsCase : Bool
  general : Bool
  human : Bool
  onlyPrintable : Bool
  month : Bool
  numeric : Bool
  shuffled : Bool
  reversed : Bool
  version : Bool
  deriving DecidableEq

def Kind.none : Kind :=
  ⟨false, false, false, false, false, false, false, false, false, false, false, false⟩

def Kind.isDefault (k : Kind) : Bool :=
  { k with reversed := false } = { Kind.none with skipsStart := false, skipsStop := false }

structure Key where
  field : Nat
  char : Nat
  lastField : Option Nat
  lastChar : Nat
  kind : Kind

def isBlank (c : Char) : Bool := c = ' ' || c = '\t' || c = '\n'

def behindFields (tab : Option Char) : Nat → List Char → List Char
  | 0, cs => cs
  | _, [] => []
  | n + 1, c :: cs =>
    match tab with
    | some d => behindFields tab n (((c :: cs).dropWhile (· ≠ d)).drop 1)
    | none => behindFields tab n (((c :: cs).dropWhile isBlank).dropWhile (!isBlank ·))

def keyStart (tab : Option Char) (k : Key) (cs : List Char) : Nat :=
  let rest := behindFields tab k.field cs
  let rest := if k.kind.skipsStart then rest.dropWhile isBlank else rest
  rest.length - k.char

def keyStop (tab : Option Char) (k : Key) (cs : List Char) : Nat :=
  match k.lastField with
  | none => 0
  | some field =>
    if k.lastChar = 0 then
      match tab with
      | some c =>
        let rest := behindFields tab field cs
        (rest.dropWhile (· ≠ c)).length
      | none => (behindFields tab (field + 1) cs).length
    else
      let rest := behindFields tab field cs
      let rest := if k.kind.skipsStop then rest.dropWhile isBlank else rest
      rest.length - k.lastChar

def keyText (tab : Option Char) (k : Key) (cs : List Char) : List Char :=
  let start := keyStart tab k cs
  let stop := keyStop tab k cs
  (cs.drop (cs.length - start)).take (start - stop)

/-- A number at the start of a text: whether it is below zero, its digits, and its places. -/
def leadingNumber (cs : List Char) : Bool × Nat × List Char × List Char :=
  let cs := cs.dropWhile isBlank
  let (negative, cs) := match cs with
    | '-' :: cs => (true, cs)
    | cs => (false, cs)
  let whole := cs.takeWhile Char.isDigit
  let rest := cs.drop whole.length
  let (places, rest) := match rest with
    | '.' :: more =>
      let ds := more.takeWhile Char.isDigit
      (ds, more.drop ds.length)
    | rest => ([], rest)
  let places := (places.reverse.dropWhile (· = '0')).reverse
  (negative, Decimal.Scanned.digitsValue whole, places, rest)

def compareNumbers (a b : List Char) : Ordering :=
  let (na, wa, pa, _) := leadingNumber a
  let (nb, wb, pb, _) := leadingNumber b
  let value (negative : Bool) (whole : Nat) (places : List Char) : Exact :=
    let n : Int := Decimal.Scanned.digitsValue (Nat.toDigits 10 whole ++ places)
    ⟨if negative then -n else n, places.length⟩
  (value na wa pa).compare (value nb wb pb)

def unitWeight (cs : List Char) : Int :=
  let (negative, whole, places, rest) := leadingNumber cs
  let order := ((" KMGTPEZYRQ".toList.idxOf? (match rest.head? with
    | some 'k' => 'K'
    | some c => c
    | none => ' ')).getD 0 : Nat)
  if whole = 0 && places.isEmpty then 0
  else if negative then -(order : Int) - 1
  else order + 1

def compareHuman (a b : List Char) : Ordering :=
  match compare (unitWeight a) (unitWeight b) with
  | .eq => compareNumbers a b
  | o => o

def generalRank (cs : List Char) : Nat × Float :=
  match Decimal.Scanned.number? cs with
  | none => (0, 0.0)
  | some (x, _) => if x.isNaN then (1, 0.0) else (2, x)

def compareGeneral (a b : List Char) : Ordering :=
  let (ra, x) := generalRank a
  let (rb, y) := generalRank b
  match compare ra rb with
  | .eq => if x < y then .lt else if y < x then .gt else .eq
  | o => o

def monthRank (cs : List Char) : Nat :=
  let text := String.ofList (((cs.dropWhile isBlank).take 3).map Char.toUpper)
  let names := ["JAN", "FEB", "MAR", "APR", "MAY", "JUN", "JUL", "AUG", "SEP", "OCT", "NOV", "DEC"]
  (names.idxOf? text).elim 0 (· + 1)

def raised (c : Char) : Char := if 'a' ≤ c && c ≤ 'z' then Char.ofNat (c.toNat - 32) else c

def relevant (k : Kind) (cs : List Char) : List Char :=
  let cs :=
    if k.dictionary then cs.filter fun c => isBlank c || c.isAlphanum
    else if k.onlyPrintable then cs.filter fun c => ' ' ≤ c && c ≤ '~'
    else cs
  if k.foldsCase then cs.map raised else cs

def compareChars : List Char → List Char → Ordering
  | [], [] => .eq
  | [], _ :: _ => .lt
  | _ :: _, [] => .gt
  | a :: as, b :: bs => if a < b then .lt else if b < a then .gt else compareChars as bs

def compareKind (k : Kind) (a b : List Char) : Ordering :=
  let o :=
    if k.numeric then compareNumbers a b
    else if k.human then compareHuman a b
    else if k.general then compareGeneral a b
    else if k.month then compare (monthRank a) (monthRank b)
    else if k.version then Versions.compareNames a b
    else compareChars (relevant k a) (relevant k b)
  if k.reversed then o.swap else o

structure Entry where
  line : List Char
  keys : List (List Char)

structure Plan where
  tab : Option Char
  keys : List Key
  global : Kind
  stable : Bool
  unique : Bool

def entry (p : Plan) (line : String) : Entry :=
  let cs := line.toList
  ⟨cs, p.keys.map fun k => keyText p.tab k cs⟩

def compareKeys : List Key → List (List Char) → List (List Char) → Ordering
  | k :: ks, a :: as, b :: bs =>
    match compareKind k.kind a b with
    | .eq => compareKeys ks as bs
    | o => o
  | _, _, _ => .eq

def compareEntries (p : Plan) (a b : Entry) : Ordering :=
  let o := if p.keys.isEmpty then .eq else compareKeys p.keys a.keys b.keys
  if o != .eq then o
  else if !p.keys.isEmpty && (p.stable || p.unique) then .eq
  else
    let o := compareChars a.line b.line
    if p.global.reversed then o.swap else o

def withLetter (k : Kind) (c : Char) (isStart isStop : Bool) : Option Kind :=
  match c with
  | 'b' => some { k with skipsStart := k.skipsStart || isStart, skipsStop := k.skipsStop || isStop }
  | 'd' => some { k with dictionary := true }
  | 'f' => some { k with foldsCase := true }
  | 'g' => some { k with general := true }
  | 'h' => some { k with human := true }
  | 'i' => some { k with onlyPrintable := true }
  | 'M' => some { k with month := true }
  | 'n' => some { k with numeric := true }
  | 'R' => some { k with shuffled := true }
  | 'r' => some { k with reversed := true }
  | 'V' => some { k with version := true }
  | _ => none

def withLetters (isStart isStop : Bool) : List Char → Kind → Kind × List Char
  | c :: rest, k =>
    match withLetter k c isStart isStop with
    | some k => withLetters isStart isStop rest k
    | none => (k, c :: rest)
  | [], k => (k, [])

def takeNumber (cs : List Char) : Option Nat × List Char :=
  let ds := cs.takeWhile Char.isDigit
  (if ds.isEmpty then none else (String.ofList ds).toNat?.map (min · wordLimit), cs.drop ds.length)

def readKey (text : String) : Except String Key := do
  let bad {α : Type} (what : String) : Except String α :=
    throw (what ++ ": invalid field specification " ++ literal text)
  match takeNumber text.toList with
  | (none, rest) =>
    throw ("invalid number at field start: invalid count at start of " ++
      literal (String.ofList (if rest.isEmpty then text.toList else rest)))
  | (some 0, _) => bad "field number is zero"
  | (some (field + 1), rest) =>
    let (char, rest) ←
      match rest with
      | '.' :: rest =>
        match takeNumber rest with
        | (none, rest) =>
          throw ("invalid number after '.': invalid count at start of " ++
            literal (String.ofList rest))
        | (some 0, _) => bad "character offset is zero"
        | (some (n + 1), rest) => pure (n, rest)
      | rest => pure (0, rest)
    let (kind, rest) := withLetters true false rest .none
    match rest with
    | [] => return ⟨field, char, none, 0, kind⟩
    | ',' :: rest =>
      match takeNumber rest with
      | (none, rest) =>
        throw ("invalid number after ',': invalid count at start of " ++
          literal (String.ofList rest))
      | (some 0, _) => bad "field number is zero"
      | (some (last + 1), rest) =>
        let (lastChar, rest) ←
          match rest with
          | '.' :: rest =>
            match takeNumber rest with
            | (none, rest) =>
              throw ("invalid number after '.': invalid count at start of " ++
                literal (String.ofList rest))
            | (some n, rest) => pure (n, rest)
          | rest => pure (0, rest)
        let (kind, rest) := withLetters false true rest kind
        if rest.isEmpty then return ⟨field, char, some last, lastChar, kind⟩
        else bad "stray character in field spec"
    | _ => bad "stray character in field spec"

def oldKey? (text : String) : Option (Nat × Nat × List Char) :=
  match takeNumber text.toList with
  | (some f, '.' :: rest) =>
    let (c, rest) := takeNumber rest
    some (f, c.getD 0, rest)
  | (some f, rest) => some (f, 0, rest)
  | (none, _) => none

def modern : Nat → List String → List String
  | 0, arguments => arguments
  | _, [] => []
  | fuel + 1, a :: rest =>
    match if a.startsWith "+" then oldKey? (a.drop 1).toString else none with
    | none => a :: modern fuel rest
    | some (f, c, letters) =>
      let start := toString (f + 1) ++ "." ++ toString (c + 1) ++ String.ofList letters
      match rest with
      | b :: more =>
        match if b.startsWith "-" then oldKey? (b.drop 1).toString else none with
        | some (g, d, letters) =>
          let stop := if d = 0 then toString g else toString (g + 1) ++ "." ++ toString d
          ("-k" ++ start ++ "," ++ stop ++ String.ofList letters) :: modern fuel more
        | none => ("-k" ++ start) :: modern fuel rest
      | [] => ["-k" ++ start]

def refuse {α : Type} (text : String) : Job α := failWith 2 text

def refusePath {α : Type} (what path : String) (fault : FileFault) : Job α :=
  refuse (what ++ ": " ++ about path fault)

def linesAt (mark : Char) (path missing : String) : Job (List String) := do
  match ← openInput path with
  | .error fault => refusePath missing path fault
  | .ok fd =>
    match ← readRest fd with
    | .error fault => refusePath "read failed" path fault
    | .ok text =>
      closeInput path fd
      return (linesBy mark text).map (·.text)

def checkInputs (paths : List String) : Job Unit := do
  for path in paths do
    if path != "-" then
      match ← ask (.openFile path .toRead 0) with
      | .error fault => refusePath "cannot read" path fault
      | .ok fd =>
        let _ ← ask (.close fd)

def disorder? (p : Plan) : Nat → List String → Option (Nat × String)
  | n, a :: b :: rest =>
    let o := compareEntries p (entry p a) (entry p b)
    if o == .gt || p.unique && o == .eq then some (n + 1, b) else disorder? p (n + 1) (b :: rest)
  | _, _ => none

def distinct (p : Plan) : List Entry → List Entry
  | a :: b :: rest =>
    if compareEntries p a b == .eq then distinct p (a :: rest) else a :: distinct p (b :: rest)
  | es => es
  termination_by es => es.length

def conflict? (k : Kind) : Option String :=
  let letters := [(k.dictionary, "d"), (k.foldsCase, "f"), (k.general, "g"), (k.human, "h"),
    (k.onlyPrintable && !k.dictionary, "i"), (k.month, "M"), (k.numeric, "n"), (k.shuffled, "R"),
    (k.version, "V")]
  let set := letters.filterMap fun (b, c) => if b then some c else none
  let count := [k.numeric, k.general, k.human, k.month, k.version || k.shuffled || k.dictionary ||
    k.onlyPrintable].count true
  if count > 1 then some (String.join set) else none

def merge (p : Plan) : Nat → List (List Entry) → List Entry
  | 0, _ => []
  | fuel + 1, lists =>
    let first := lists.zipIdx.foldl
      (fun (best : Option (Entry × Nat)) (list, i) =>
        match best, list with
        | none, e :: _ => some (e, i)
        | some (b, j), e :: _ => if compareEntries p b e == .gt then some (e, i) else some (b, j)
        | best, [] => best)
      none
    match first with
    | none => []
    | some (e, i) => e :: merge p fuel (lists.modify i (·.drop 1))

inductive Checking
  | loud
  | quiet
  deriving DecidableEq

def Checking.letter : Checking → String
  | .loud => "c"
  | .quiet => "C"

structure Request where
  tab : Option Char
  keys : List Key
  global : Kind
  checking : Option Checking
  output : Option String
  names : Option String
  randomSource : Option String
  compressor : Option String

def incompatible {α : Type} (letters : String) : Job α :=
  refuse ("options '-" ++ letters ++ "' are incompatible")

def once (what : String) (before : Option String) (text : String) : Job (Option String) := do
  if before.any (· != text) then refuse ("multiple " ++ what ++ " specified")
  return some text

def refuseNumber {α : Type} (option text : String) : Job α := do
  let digits := text.toList.takeWhile Char.isDigit
  if digits.isEmpty then refuse ("invalid " ++ option ++ " argument '" ++ text ++ "'")
  else if digits.length < text.length then
    refuse ("invalid suffix in " ++ option ++ " argument '" ++ text ++ "'")
  else refuse (option ++ " argument '" ++ text ++ "' too large")

def checkSize (option text : String) : Job Unit := do
  let digits := text.toList.takeWhile Char.isDigit
  let unit := text.toList.drop digits.length
  let power :=
    match unit with
    | [] => some 1
    | ['b'] | ['%'] => some 0
    | [c] => if "EgGkKmMPQRtTYZ".contains c then (power? c) else none
    | _ => none
  match power, (String.ofList digits).toNat? with
  | some power, some n =>
    if wordLimit ≤ n * Nat.pow 1024 power then
      refuse (option ++ " argument '" ++ text ++ "' too large")
  | _, _ => refuseNumber option text

def checkBatch (text : String) : Job Unit := do
  match natural? text with
  | some n =>
    if n < 2 then
      complain ("invalid --batch-size argument " ++ literal text)
      refuse "minimum --batch-size argument is '2'"
    if n > 1021 then
      complain ("--batch-size argument " ++ literal text ++ " too large")
      refuse "maximum --batch-size argument with current rlimit is 1021"
  | none => refuseNumber "--batch-size" text

def checkThreads (text : String) : Job Unit := do
  match natural? text with
  | some 0 => refuse "number in parallel must be nonzero"
  | some _ => pure ()
  | none => refuseNumber "--parallel" text

namespace Request

def setChecking (r : Request) (c : Checking) : Job Request := do
  if r.checking.any (· ≠ c) then incompatible "cC"
  return { r with checking := some c }

def add (r : Request) (key : String) (value : Option String) : Job Request := do
  let text := value.getD ""
  match key with
  | "C" => r.setChecking .quiet
  | "c" =>
    match value with
    | none => r.setChecking .loud
    | some text =>
      let choices := [("quiet", Checking.quiet), ("silent", .quiet), ("diagnose-first", .loud)]
      r.setChecking (← choice (hint 1) "--check" choices text)
  | "compress" => return { r with compressor := ← once "compress programs" r.compressor text }
  | "source" => return { r with randomSource := ← once "random sources" r.randomSource text }
  | "files" => return { r with names := some text }
  | "k" =>
    match readKey text with
    | .ok k => return { r with keys := r.keys ++ [k] }
    | .error text => refuse text
  | "batch" =>
    checkBatch text
    return r
  | "o" => return { r with output := ← once "output files" r.output text }
  | "S" | "size" =>
    checkSize (if key == "S" then "-S" else "--buffer-size") text
    return r
  | "parallel" =>
    checkThreads text
    return r
  | "t" =>
    let tab ←
      match text.toList with
      | [] => refuse "empty tab"
      | [c] => pure c
      | ['\\', '0'] => pure '\x00'
      | _ => refuse ("multi-character tab " ++ literal text)
    if r.tab.any (· ≠ tab) then refuse "incompatible tabs"
    return { r with tab := some tab }
  | "sort" =>
    let choices := [("general-numeric", 'g'), ("human-numeric", 'h'), ("month", 'M'),
      ("numeric", 'n'), ("random", 'R'), ("version", 'V')]
    let letter ← choice (hint 1) "--sort" choices text
    return { r with global := (withLetter r.global letter true true).getD r.global }
  | key =>
    match key.toList with
    | [c] => return { r with global := (withLetter r.global c true true).getD r.global }
    | _ => return r

end Request

def pathsOf (r : Request) (operands : List String) : Job (List String) := do
  match r.names with
  | none => return if operands.isEmpty then ["-"] else operands
  | some list =>
    if let operand :: _ := operands then
      complain ("extra operand " ++ quoted operand)
      tell "file operands cannot be combined with --files0-from\n"
      hint 2
    let names ← linesAt '\x00' list "open failed"
    if names.isEmpty then refuse ("no input from " ++ quoted list)
    for (name, i) in names.zipIdx do
      if name == "-" then
        refuse ("when reading file names from stdin, no file name of " ++ quoted name ++ " allowed")
      if name.isEmpty then
        refuse (plain list ++ ":" ++ toString (i + 1) ++ ": invalid zero-length file name")
    return names

def check (p : Plan) (c : Checking) (mark : Char) (path : String) : Job Unit := do
  let ls ← linesAt mark path "open failed"
  if let some (n, line) := disorder? p 1 ls then
    if c = .loud then
      tell ((← get).name ++ ": " ++ path ++ ":" ++ toString n ++ ": disorder: " ++ line ++ "\n")
    throw 1

def sortAll (p : Plan) (merges : Bool) (mark : Char) (paths : List String) : Job (List Entry) := do
  let mut lists := []
  for path in paths do
    let lines ← linesAt mark path (if merges then "open failed" else "cannot read")
    lists := lines.map (entry p) :: lists
  let inOrder := lists.reverse
  if merges then return merge p (inOrder.flatten.length + 1) inOrder
  else return inOrder.flatten.mergeSort fun a b => compareEntries p a b != .gt

def optionTable : OptionTable :=
  .ofTexts "bcCdfghik:mMno:rRsS:t:T:uVy:z"
    ["ignore-leading-blanks b", "check? c", "compress-program= compress", "debug debug",
     "dictionary-order d", "ignore-case f", "files0-from= files", "general-numeric-sort g",
     "ignore-nonprinting i", "key= k", "merge m", "month-sort M", "numeric-sort n",
     "human-numeric-sort h", "version-sort V", "random-sort R", "random-source= source",
     "sort= sort", "output= o", "reverse r", "stable s", "batch-size= batch", "buffer-size= size",
     "field-separator= t", "temporary-directory= T", "unique u", "zero-terminated z",
     "parallel= parallel"] true 2

def sort : Utility where
  name := "sort"
  work arguments := do
    let (found, operands) ← optionTable.parse (modern arguments.length arguments)
    let has := Chosen.has found
    let mut r : Request := ⟨none, [], .none, none, none, none, none, none⟩
    for (key, value) in found do r ← r.add key value
    let paths ← pathsOf r operands
    let global := r.global
    let keys := r.keys.map fun k => if k.kind = .none then { k with kind := global } else k
    let keys :=
      if keys.isEmpty && !global.isDefault then [⟨0, 0, none, 0, global⟩] else keys
    for k in keys do
      if let some letters := conflict? k.kind then incompatible letters
    if keys.any (·.kind.shuffled) then
      if let some source := r.randomSource then
        let _ ← linesAt '\n' source "open failed"
    let p : Plan := ⟨r.tab, keys, global, has "s", has "u"⟩
    let mark := if has "z" then '\x00' else '\n'
    match r.checking, paths with
    | some c, _ :: extra :: _ =>
      refuse ("extra operand " ++ quoted extra ++ " not allowed with -" ++ c.letter)
    | some c, _ =>
      if r.output.isSome then incompatible (c.letter ++ "o")
      check p c mark (paths.headD "-")
    | none, _ =>
      checkInputs paths
      let target? ←
        match r.output with
        | none => pure none
        | some path =>
          match ← ask (.openFile path { Opening.toWrite with empties := false } 0o666) with
          | .error fault => refusePath "open failed" path fault
          | .ok fd => pure (some fd)
      let sorted ← sortAll p (has "m") mark paths
      let kept := if p.unique then distinct p sorted else sorted
      if let some fd := target? then
        let _ ← ask (.truncate fd 0)
        let _ ← ask (.duplicate fd 1)
      print (String.join (kept.map fun e => (String.ofList e.line).push mark))

end ServerKeeper.Tool.Sorting
