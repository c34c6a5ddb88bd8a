import ServerKeeper.Shell.Format
import ServerKeeper.Tool.Lines

namespace ServerKeeper.Tool.Conveying

open Job Host

def amountText (base : Nat) (n : Nat) : String :=
  let units :=
    if base = 1000 then ["kB", "MB", "GB", "TB", "PB"] else ["KiB", "MiB", "GiB", "TiB", "PiB"]
  let nearest (n d : Nat) : Nat :=
    let q := n / d
    if 2 * (n % d) > d || 2 * (n % d) = d && q % 2 = 1 then q + 1 else q
  let rec go : Nat → List String → String
    | _, [] => toString n ++ " B"
    | power, u :: rest =>
      let tenths := nearest (10 * n) power
      if tenths < 100 then toString (tenths / 10) ++ "." ++ toString (tenths % 10) ++ " " ++ u
      else
        let whole := nearest n power
        if whole < base || rest.isEmpty then toString whole ++ " " ++ u else go (power * base) rest
  if n < base then toString n ++ " B" else go base units

structure Change where
  toUpper : Bool
  toLower : Bool
  swaps : Bool
  blocks : Bool
  unblocks : Bool
  lineSize : Nat

structure Manner where
  input : Option String
  output : Option String
  readSize : Nat
  writeSize : Nat
  isDirect : Bool
  skipped : Nat
  passed : Nat
  count : Option Nat
  countsBytes : Bool
  change : Change
  fills : Bool
  keepsRest : Bool
  isNew : Bool
  isOld : Bool
  appends : Bool
  fullBlocks : Bool
  status : String

structure Tally where
  fullIn : Nat
  partIn : Nat
  fullOut : Nat
  partOut : Nat
  bytes : Nat
  cut : Nat
  waiting : List Char
  kept : Option Char
  column : Nat
  blanks : Nat

def conversions : List String :=
  ["ascii", "ebcdic", "ibm", "block", "unblock", "lcase", "ucase", "sparse", "swab", "noerror",
   "nocreat", "excl", "notrunc", "sync", "fdatasync", "fsync"]

def flagNames : List String :=
  ["append", "binary", "cio", "direct", "directory", "dsync", "noatime", "nocache", "nofollow",
   "nolinks", "nonblock", "sync", "text", "fullblock", "count_bytes", "skip_bytes", "seek_bytes"]

def number? (text : String) : Option (Nat × Bool) := do
  let one (text : String) : Option Nat := (readSize "bcEGkKMPQRTwYZ" text).toOption
  let asksBytes := text.endsWith "B" && (one text).isNone
  let body := if asksBytes then (text.dropEnd 1).toString else text
  let factors ← (body.splitOn "x").mapM one
  return (factors.foldl (· * ·) 1, asksBytes)

def unknown {α : Type} (text : String) : Job α := misuse text

def settings : List String → Job (List (String × String))
  | [] => return []
  | word :: rest => do
    let name := String.ofList (word.toList.takeWhile (· ≠ '='))
    let known := ["if", "of", "ibs", "obs", "bs", "cbs", "skip", "iseek", "seek", "oseek", "count",
      "conv", "iflag", "oflag", "status"]
    if name.length = word.length || !known.contains name then
      unknown ("unrecognized operand " ++ ShownPath.literal word)
    else
      let value := (word.drop (name.length + 1)).toString
      let check (names : List String) (what : String) : Job Unit := do
        for part in value.splitOn "," do
          if !names.contains part then unknown (what ++ ShownPath.literal part)
      match name with
      | "conv" => check conversions "invalid conversion: "
      | "iflag" => check flagNames "invalid input flag: "
      | "oflag" => check flagNames "invalid output flag: "
      | "status" =>
        unless ["none", "noxfer", "progress"].contains value do
          unknown ("invalid status level: " ++ ShownPath.literal value)
      | "if" | "of" => pure ()
      | _ =>
        match number? value with
        | none => fail ("invalid number: " ++ ShownPath.literal value)
        | some (n, _) =>
          if n = 0 && ["bs", "ibs", "obs", "cbs"].contains name then
            fail ("invalid number: " ++ ShownPath.literal value)
      return (name, value) :: (← settings rest)

def swapped : List Char → List Char × Option Char
  | a :: b :: rest =>
    let (rest, last) := swapped rest
    (b :: a :: rest, last)
  | [a] => ([], some a)
  | [] => ([], none)

def blocked (size : Nat) : List Char → Tally → List Char → Tally × List Char
  | [], t, acc => (t, acc.reverse)
  | '\n' :: cs, t, acc =>
    let cut := if t.column > size then t.cut + 1 else t.cut
    blocked size cs { t with column := 0, cut }
      (List.replicate (size - t.column) ' ' ++ acc)
  | c :: cs, t, acc =>
    blocked size cs { t with column := t.column + 1 } (if t.column < size then c :: acc else acc)

def unblocked (size : Nat) : List Char → Tally → List Char → Tally × List Char
  | [], t, acc => (t, acc.reverse)
  | c :: cs, t, acc =>
    let (t, acc) :=
      if t.column ≥ size then ({ t with column := 0, blanks := 0 }, '\n' :: acc) else (t, acc)
    let t := { t with column := t.column + 1 }
    if c = ' ' then unblocked size cs { t with blanks := t.blanks + 1 } acc
    else unblocked size cs { t with blanks := 0 } (c :: (List.replicate t.blanks ' ' ++ acc))

def changed (c : Change) (t : Tally) (cs : List Char) : Tally × List Char :=
  let (t, cs) :=
    if c.swaps then
      let (cs, last) := swapped (t.kept.toList ++ cs)
      ({ t with kept := last }, cs)
    else (t, cs)
  let cs := if c.toUpper then cs.map Char.toUpper else if c.toLower then cs.map Char.toLower else cs
  if c.blocks then blocked c.lineSize cs t []
  else if c.unblocks then unblocked c.lineSize cs t []
  else (t, cs)

def ending (c : Change) (t : Tally) : Tally × List Char :=
  let last := t.kept.toList
  if c.blocks && t.column > 0 then
    ({ t with cut := if t.column > c.lineSize then t.cut + 1 else t.cut, column := 0 },
      last ++ List.replicate (c.lineSize - t.column) ' ')
  else if c.unblocks && t.column > 0 then (t, last ++ ['\n'])
  else (t, last)

abbrev Work (α : Type) := StateT Tally Job α

def report (m : Manner) (t : Tally) : Job Unit := do
  if m.status != "none" then
    let line (full part : Nat) (what : String) : String :=
      toString full ++ "+" ++ toString part ++ " records " ++ what ++ "\n"
    let cut :=
      if t.cut = 0 then "" else toString t.cut ++ " truncated record" ++
        if t.cut = 1 then "\n" else "s\n"
    let bytes :=
      if m.status == "noxfer" then ""
      else
        let unit := if t.bytes = 1 then " byte" else " bytes"
        let amounts :=
          if t.bytes < 1000 then ""
          else if t.bytes < 1024 then " (" ++ amountText 1000 t.bytes ++ ")"
          else " (" ++ amountText 1000 t.bytes ++ ", " ++ amountText 1024 t.bytes ++ ")"
        toString t.bytes ++ unit ++ amounts ++ " copied, 0.001 s, " ++
          amountText 1000 (1000 * t.bytes) ++ "/s\n"
    tell (line t.fullIn t.partIn "in" ++ line t.fullOut t.partOut "out" ++ cut ++ bytes)

def giveUp {α : Type} (m : Manner) (text : String) : Work α := do
  let t ← getThe Tally
  complain text
  report m t
  (throw 1 : Job α)

def outputName (m : Manner) : String := ShownPath.literal (m.output.getD "standard output")

def writeBlock (m : Manner) (cs : List Char) (isFull : Bool) : Work Unit := do
  match ← (ask (.write 1 (String.ofList cs)) : Job _) with
  | .ok () =>
    modify fun t =>
      { t with
        bytes := t.bytes + cs.length
        fullOut := if isFull then t.fullOut + 1 else t.fullOut
        partOut := if isFull then t.partOut else t.partOut + 1 }
  | .error fault => giveUp m ("error writing " ++ outputName m ++ ": " ++ fault.text)

def writeWhole (m : Manner) : Nat → Work Unit
  | 0 => return
  | fuel + 1 => do
    let t ← getThe Tally
    if t.waiting.length ≥ m.writeSize then
      set { t with waiting := t.waiting.drop m.writeSize }
      writeBlock m (t.waiting.take m.writeSize) true
      writeWhole m fuel

def take (m : Manner) (cs : List Char) : Work Unit := do
  modify fun t =>
    let (t, cs) := changed m.change t cs
    { t with waiting := t.waiting ++ cs }
  let t ← getThe Tally
  if m.isDirect then
    set { t with waiting := [] }
    if !t.waiting.isEmpty then writeBlock m t.waiting (t.waiting.length = m.writeSize)
  else writeWhole m (t.waiting.length + 1)

def readPiece (m : Manner) : Nat → Nat → String → Work String
  | 0, _, acc => return acc
  | fuel + 1, size, acc => do
    match ← (ask (.read 0 size) : Job _) with
    | .error fault =>
      giveUp m ("error reading " ++ ShownPath.literal (m.input.getD "standard input") ++ ": " ++
        fault.text)
    | .ok piece =>
      if piece.isEmpty || !m.fullBlocks || piece.length ≥ size then return acc ++ piece
      else readPiece m fuel (size - piece.length) (acc ++ piece)

def convey (m : Manner) : Nat → Option Nat → Work Unit
  | 0, _ => return
  | fuel + 1, left => do
    if left = some 0 then return
    let size := if m.countsBytes then left.elim m.readSize (min m.readSize) else m.readSize
    let piece ← readPiece m (size + 1) size ""
    if piece.isEmpty then return
    let isFull : Bool := piece.length = m.readSize
    modify fun t =>
      { t with
        fullIn := if isFull then t.fullIn + 1 else t.fullIn
        partIn := if isFull then t.partIn else t.partIn + 1 }
    let filler := if m.change.blocks || m.change.unblocks then ' ' else '\x00'
    let cs := piece.toList
    take m (if m.fills then cs ++ List.replicate (m.readSize - cs.length) filler else cs)
    convey m fuel (left.map fun n => if m.countsBytes then n - piece.length else n - 1)

def passOver : Nat → Nat → Job Nat
  | 0, n => return n
  | fuel + 1, n => do
    if n = 0 then return 0
    else
      match ← ask (.read 0 (min n 65536)) with
      | .error _ => return n
      | .ok piece => if piece.isEmpty then return n else passOver fuel (n - piece.length)

def openInputOf (m : Manner) : Job Unit := do
  if let some path := m.input then
    match ← ask (.openFile path .toRead 0) with
    | .error fault => fail ("failed to open " ++ ShownPath.quoted path ++ ": " ++ fault.text)
    | .ok fd =>
      if fd ≠ 0 then
        let _ ← ask (.duplicate fd 0)
        let _ ← ask (.close fd)

def openOutputOf (m : Manner) : Job Unit := do
  if let some path := m.output then
    let how : Opening :=
      { reads := false
        writes := true
        appends := m.appends
        creates := !m.isOld
        onlyNew := m.isNew
        empties := !m.keepsRest && m.passed = 0 }
    match ← ask (.openFile path how 0o666) with
    | .error fault => fail ("failed to open " ++ ShownPath.quoted path ++ ": " ++ fault.text)
    | .ok fd =>
      if fd ≠ 1 then
        let _ ← ask (.duplicate fd 1)
        let _ ← ask (.close fd)
  if m.passed > 0 then
    if m.output.isSome && !m.keepsRest then
      let _ ← ask (.truncate 1 m.passed)
    let _ ← ask (.seek 1 m.passed)

def run (m : Manner) : Job Unit := do
  openInputOf m
  openOutputOf m
  let missing ← passOver maxRounds m.skipped
  if missing > 0 then
    tell ("dd: " ++ ShownPath.plain (m.input.getD "standard input") ++
      ": cannot skip to specified offset\n")
  let work : Work Unit := do
    convey m maxRounds m.count
    modify fun t =>
      let (t, cs) := ending m.change t
      { t with waiting := t.waiting ++ cs }
    writeWhole m maxRounds
    let t ← getThe Tally
    if !t.waiting.isEmpty then writeBlock m t.waiting false
    report m (← getThe Tally)
  let _ ← StateT.run work ⟨0, 0, 0, 0, 0, 0, [], none, 0, 0⟩

def last? (ss : List (String × String)) (names : List String) : Option String :=
  (ss.reverse.find? fun p => names.contains p.1).map (·.2)

def mannerOf (ss : List (String × String)) : Job Manner := do
  let count? (names : List String) : Option (Nat × Bool) := (last? ss names).bind number?
  let amount (name : String) (usual : Nat) : Nat := ((count? [name]).map (·.1)).getD usual
  let parts (name : String) : List String := (ss.filter (·.1 == name)).flatMap (·.2.splitOn ",")
  let conv := parts "conv"
  let has (list : List String) (name : String) : Bool := list.contains name
  let exclude (names : List String) (text : String) : Job Unit := do
    if (names.filter (has conv)).length > 1 then fail ("cannot combine " ++ text)
  exclude ["ascii", "ebcdic", "ibm"] "any two of \x7bascii,ebcdic,ibm\x7d"
  let lineSize := amount "cbs" 0
  if lineSize > 0 then exclude ["block", "unblock"] "block and unblock"
  exclude ["lcase", "ucase"] "lcase and ucase"
  exclude ["excl", "nocreat"] "excl and nocreat"
  let both := (count? ["bs"]).map (·.1)
  let readSize := both.getD (amount "ibs" 512)
  let writeSize := both.getD (amount "obs" 512)
  let placeOf (names : List String) (unit : Nat) (inBytes : Bool) : Nat :=
    match count? names with
    | some (n, asksBytes) => if inBytes || asksBytes then n else n * unit
    | none => 0
  let count := count? ["count"]
  return {
    input := last? ss ["if"]
    output := last? ss ["of"]
    readSize
    writeSize
    isDirect := both.isSome && !(has conv "block" || has conv "unblock" || has conv "swab")
    skipped := placeOf ["skip", "iseek"] readSize (has (parts "iflag") "skip_bytes")
    passed := placeOf ["seek", "oseek"] writeSize (has (parts "oflag") "seek_bytes")
    count := count.map (·.1)
    countsBytes := count.any (·.2) || has (parts "iflag") "count_bytes"
    change :=
      { toUpper := has conv "ucase"
        toLower := has conv "lcase"
        swaps := has conv "swab"
        blocks := lineSize > 0 && (has conv "block" || has conv "ebcdic" || has conv "ibm")
        unblocks := lineSize > 0 && (has conv "unblock" || has conv "ascii")
        lineSize }
    fills := has conv "sync"
    keepsRest := has conv "notrunc"
    isNew := has conv "excl"
    isOld := has conv "nocreat"
    appends := has (parts "oflag") "append"
    fullBlocks := has (parts "iflag") "fullblock"
    status := (last? ss ["status"]).getD "" }

def dd : Utility where
  name := "dd"
  title := "dd (coreutils) 9.4"
  operands := "[OPERAND]..."
  work arguments := do
    let t := OptionTable.ofTexts "" [] true 1
    let (_, operands) ← t.parse arguments
    run (← mannerOf (← settings operands))

end ServerKeeper.Tool.Conveying
