import ServerKeeper.Tool.Lines

namespace ServerKeeper.Tool.Fields

open Job Host
open ShownPath (literal plain)

abbrev Span := Nat × Option Nat

structure Progress where
  spans : List Span
  start : Nat
  digits : List Char
  hasDash : Bool
  hasLeft : Bool
  hasRight : Bool

namespace Progress

def value (p : Progress) : Nat := p.digits.foldr (fun c n => 10 * n + (c.toNat - 48)) 0

def close (byPosition : Bool) (p : Progress) : Except String (List Span) := do
  if p.hasDash then
    if !p.hasLeft && !p.hasRight then throw "invalid range with no endpoint: -"
    else if !p.hasRight then return (p.start, none) :: p.spans
    else if p.value < p.start then throw "invalid decreasing range"
    else return (p.start, some p.value) :: p.spans
  else if p.value = 0 then
    throw (if byPosition then "byte/character positions are numbered from 1"
      else "fields are numbered from 1")
  else return (p.value, some p.value) :: p.spans

end Progress

def spansFrom (byPosition : Bool) : List Char → Progress → Except String (List Span)
  | [], p => p.close byPosition
  | c :: rest, p => do
    if c = '-' then
      if p.hasDash then
        throw (if byPosition then "invalid byte or character range" else "invalid field range")
      else if p.hasLeft && p.value = 0 then
        throw (if byPosition then "byte/character positions are numbered from 1"
          else "fields are numbered from 1")
      else
        spansFrom byPosition rest
          { p with hasDash := true, start := if p.hasLeft then p.value else 1, digits := [] }
    else if c = ',' || isBlank c then
      spansFrom byPosition rest ⟨← p.close byPosition, 0, [], false, false, false⟩
    else if c.isDigit then
      let p := { p with digits := c :: p.digits }
      if wordLimit ≤ p.value + 1 then
        let digits := p.digits.reverse ++ rest.takeWhile Char.isDigit
        throw ((if byPosition then "byte/character offset " else "field number ") ++
          literal (String.ofList digits) ++ " is too large")
      else
        spansFrom byPosition rest
          (if p.hasDash then { p with hasRight := true } else { p with hasLeft := true })
    else
      let shown := literal (String.ofList (c :: rest))
      throw ((if byPosition then "invalid byte/character position " else "invalid field value ") ++
        shown)

def spans (byPosition : Bool) (text : String) : Except String (List Span) :=
  spansFrom byPosition text.toList ⟨[], 0, [], false, false, false⟩

def merged (ss : List Span) : List Span :=
  let sorted := ss.mergeSort fun p q => p.1 < q.1 || p.1 = q.1 && q.2.all fun d => p.2.any (· ≤ d)
  (sorted.foldl
    (fun (acc : List Span) (p : Span) =>
      match acc with
      | (a, b) :: rest =>
        if b.all (p.1 ≤ ·) then
          let stop := match b, p.2 with
            | some b, some d => some (max b d)
            | _, _ => none
          (a, stop) :: rest
        else p :: acc
      | [] => [p])
    []).reverse

def gaps : Nat → List Span → List Span
  | start, [] => [(start, none)]
  | start, (a, b) :: rest =>
    let before := if start < a then [(start, some (a - 1))] else []
    match b with
    | some b => before ++ gaps (b + 1) rest
    | none => before

def pick {α : Type} (xs : List α) (s : Span) : List α :=
  let from_ := xs.drop (s.1 - 1)
  match s.2 with
  | some b => from_.take (b + 1 - s.1)
  | none => from_

def cut : Utility where
  name := "cut"
  operands := "OPTION... [FILE]..."
  work arguments := do
    let t := OptionTable.ofTexts "b:c:d:f:nsz"
      ["bytes= b", "characters= c", "fields= f", "delimiter= d", "only-delimited s",
       "output-delimiter= output", "complement complement", "zero-terminated z"] true 1
    let (found, paths) ← t.parse arguments
    let has := Chosen.has found
    let lists := found.filter fun (key, _) => ["b", "c", "f"].contains key
    match lists with
    | [] => misuse "you must specify a list of bytes, characters, or fields"
    | _ :: _ :: _ => misuse "only one list may be specified"
    | [_] => pure ()
    let (kind, list) := match lists with
      | (kind, list) :: _ => (kind, list.getD "")
      | [] => ("f", "")
    let byPosition := kind != "f"
    let delimiter := Chosen.value? found "d"
    if delimiter.any (·.length > 1) then misuse "the delimiter must be a single character"
    if byPosition then
      if delimiter.isSome then
        misuse "an input delimiter may be specified only when operating on fields"
      if has "s" then
        misuse ("suppressing non-delimited lines makes sense\n" ++
          "\tonly when operating on fields")
    let ss ←
      match spans byPosition list with
      | .ok ss => pure ss
      | .error text => misuse text
    let ss := if has "complement" then gaps 1 (merged ss) else merged ss
    let mark := if has "z" then '\x00' else '\n'
    let separator := match delimiter with
      | some "" => "\x00"
      | some d => d
      | none => "\t"
    let output := Chosen.value? found "output"
    let shown (line : String) : Option String :=
      if byPosition then
        let cs := line.toList
        let runs := (ss.map (pick cs)).filter (!·.isEmpty)
        some ((output.getD "").intercalate (runs.map String.ofList))
      else
        match line.splitOn separator with
        | [_] => if has "s" then none else some line
        | fields =>
          some ((output.getD separator).intercalate (ss.flatMap (pick fields)))
    for path in if paths.isEmpty then ["-"] else paths do
      match ← openInput path with
      | .error fault => complain (about path fault)
      | .ok fd =>
        let r ← eachLine fd mark fun l => do
          if let some text := shown l.text then print (text.push mark)
          return true
        match r with
        | .ok _ => pure ()
        | .error fault => complain (about path fault)
        closeInput path fd

def separators (text : String) : List String :=
  let rec go : List Char → List String
    | [] => []
    | '\\' :: c :: rest =>
      let named := [('0', ""), ('b', "\x08"), ('f', "\x0c"), ('n', "\n"), ('r', "\r"), ('t', "\t"),
        ('v', "\x0b"), ('\\', "\\")]
      (named.lookup c).getD c.toString :: go rest
    | c :: rest => c.toString :: go rest
  go text.toList

def separatorAfter (ds : List String) (i : Nat) : String := ds.getD (i % max 1 ds.length) ""

structure Row where
  sources : List (Nat × LineSource)
  /-- Separators that are printed as soon as a line or the end of the row stands behind them. -/
  pending : String
  hasLine : Bool

/-- Prints the next line of an input in its column. An input that cannot be read is complained about
and has no more lines. -/
def pasteColumn (ds : List String) (mark : String) (columns : Nat) (row : Row) (i : Nat)
    (path : String) (share : Nat) : Job Row := do
  let after := if i + 1 = columns then mark else separatorAfter ds i
  let line? ←
    match row.sources.lookup share with
    | none => pure none
    | some source =>
      match ← source.next with
      | (.ok none, _) => pure none
      | (.ok (some l), source) => pure (some (l.text, source))
      | (.error fault, _) =>
        complain (about path fault)
        pure none
  let others := row.sources.filter (·.1 ≠ share)
  match line? with
  | some (text, source) =>
    print (row.pending ++ text ++ after)
    return ⟨(share, source) :: others, "", true⟩
  | none =>
    if i + 1 = columns && row.hasLine then print (row.pending ++ after)
    return ⟨others, row.pending ++ after, row.hasLine⟩

/-- Prints lines side by side as long as an input has some. Inputs that share a descriptor take
turns. -/
def pasteRows (ds : List String) (mark : String) (paths : List String) :
    Nat → List (Nat × LineSource) → Job Unit
  | 0, _ => pure ()
  | fuel + 1, sources => do
    let mut row : Row := ⟨sources, "", false⟩
    for (path, i) in paths.zipIdx do
      let share := if path == "-" then paths.idxOf "-" else i
      row ← pasteColumn ds mark paths.length row i path share
    if row.hasLine then pasteRows ds mark paths fuel row.sources

def pasteOn (ds : List String) : Nat → Nat → LineSource → Job (Option FileFault)
  | 0, _, _ => return none
  | fuel + 1, i, source => do
    match ← source.next with
    | (.error fault, _) => return some fault
    | (.ok none, _) => return none
    | (.ok (some l), source) =>
      print ((if i = 0 then "" else separatorAfter ds (i - 1)) ++ l.text)
      pasteOn ds fuel (i + 1) source

def paste : Utility where
  name := "paste"
  work arguments := do
    let t := OptionTable.ofTexts "d:sz" ["serial s", "delimiters= d", "zero-terminated z"] true 1
    let (found, paths) ← t.parse arguments
    let list := (Chosen.value? found "d").getD "\t"
    if (list.toList.reverse.takeWhile (· = '\\')).length % 2 = 1 then
      fail ("delimiter list ends with an unescaped backslash: " ++ list)
    let ds := separators (if list.isEmpty then "\\0" else list)
    let mark := if Chosen.has found "z" then '\x00' else '\n'
    let paths := if paths.isEmpty then ["-"] else paths
    if Chosen.has found "s" then
      for path in paths do
        match ← openInput path with
        | .error fault => complain (about path fault)
        | .ok fd =>
          let fault? ← pasteOn ds maxRounds 0 (LineSource.ofInput fd mark)
          print mark.toString
          if let some fault := fault? then complain (about path fault)
          closeInput path fd
    else
      let mut inputs := []
      for path in paths do
        match ← openInput path with
        | .ok fd => inputs := inputs ++ [LineSource.ofInput fd mark]
        | .error fault => fail (about path fault)
      pasteRows ds mark.toString paths maxRounds (inputs.zipIdx.map fun (s, i) => (i, s))

end ServerKeeper.Tool.Fields
