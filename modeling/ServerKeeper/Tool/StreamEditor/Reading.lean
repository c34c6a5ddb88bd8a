import ServerKeeper.Tool.Lines
import ServerKeeper.Tool.StreamEditor.Command

namespace ServerKeeper.Tool.StreamEditor

open Regex (Dialect)

structure Jump where
  index : Nat
  label : String

structure Progress where
  rest : List Char
  position : Nat
  commands : Array Command
  openBlocks : List Nat
  labels : List (String × Nat)
  jumps : List Jump
  outputs : List String
  isExtended : Bool
  mark : Char

structure Refusal where
  text : String
  position : Option Nat

abbrev Reader := ExceptT Refusal (StateM Progress)

namespace Reader

def refuse {α : Type} (text : String) : Reader α := do
  throw ⟨text, some (← get).position⟩

def take : Reader (Option Char) := do
  let p ← get
  match p.rest with
  | c :: rest =>
    set { p with rest, position := p.position + 1 }
    return some c
  | [] => return none

def look : Reader (Option Char) := do return (← get).rest.head?

def putBack (c : Option Char) : Reader Unit :=
  match c with
  | some c => modify fun p => { p with rest := c :: p.rest, position := p.position - 1 }
  | none => pure ()

def takeWhile (test : Char → Bool) : Reader (List Char) := do
  let p ← get
  let cs := p.rest.takeWhile test
  set { p with rest := p.rest.drop cs.length, position := p.position + cs.length }
  return cs

def isSpace (c : Char) : Bool := c = ' ' || '\t' ≤ c && c ≤ '\x0d'

def passBlanks : Reader Unit := do
  let _ ← takeWhile isBlank

def passSpaces : Reader Unit := do
  let _ ← takeWhile isSpace

def number : Reader (Option Nat) := do
  let ds ← takeWhile Char.isDigit
  return if ds.isEmpty then none else (String.ofList ds).toNat?

def finish : Reader Unit := do
  passBlanks
  match ← take with
  | none | some '\n' | some ';' => pure ()
  | some '\r' => finishReturn
  | some c =>
    if c = '\x7d' || c = '#' then putBack (some c) else refuse "extra characters after command"
where
  finishReturn : Reader Unit := refuse "extra characters after command"

def bracket : Nat → List Char → Bool → Reader (Option (List Char))
  | 0, _, _ => return none
  | fuel + 1, acc, isFirst => do
    match ← take with
    | none | some '\n' => return none
    | some ']' => if isFirst then bracket fuel (']' :: acc) false else return some (']' :: acc)
    | some '^' => bracket fuel ('^' :: acc) (isFirst && acc.head? = some '[')
    | some '[' =>
      match ← look with
      | some c =>
        if c = ':' || c = '.' || c = '=' then
          let _ ← take
          classEnd c fuel (c :: '[' :: acc)
        else bracket fuel ('[' :: acc) false
      | none => return none
    | some '\\' =>
      match ← look with
      | some 'n' =>
        let _ ← take
        bracket fuel ('\n' :: acc) false
      | some ']' => bracket fuel ('\\' :: acc) false
      | some '\n' =>
        let _ ← take
        bracket fuel ('\n' :: acc) false
      | some c =>
        let _ ← take
        bracket fuel (c :: '\\' :: acc) false
      | none => return none
    | some c => bracket fuel (c :: acc) false
where
  classEnd (mark : Char) : Nat → List Char → Reader (Option (List Char))
    | 0, _ => return none
    | fuel + 1, acc => do
      match ← take with
      | none | some '\n' => return none
      | some c =>
        if c = mark && (← look) = some ']' then
          let _ ← take
          bracket fuel (']' :: c :: acc) false
        else classEnd mark fuel (c :: acc)

def delimitedFrom (mark : Char) (isExpression : Bool) : Nat → List Char → Reader (Option String)
  | 0, _ => return none
  | fuel + 1, acc => do
    match ← take with
    | none => return none
    | some c =>
      if c = mark then return some (String.ofList acc.reverse)
      else if c = '\n' then
        if isExpression then
          putBack (some c)
          return none
        else
          putBack (some c)
          return none
      else if c = '\\' then
        match ← take with
        | none => return none
        | some e =>
          if e = mark && !(!isExpression && e = '&') then
            delimitedFrom mark isExpression fuel (e :: acc)
          else if e = 'n' && isExpression then delimitedFrom mark isExpression fuel ('\n' :: acc)
          else if e = '\n' && isExpression then delimitedFrom mark isExpression fuel ('\n' :: acc)
          else delimitedFrom mark isExpression fuel (e :: '\\' :: acc)
      else if c = '[' && isExpression then
        match ← bracket fuel ['['] true with
        | some inner => delimitedFrom mark isExpression fuel (inner ++ acc)
        | none => return none
      else delimitedFrom mark isExpression fuel (c :: acc)

def delimited (mark : Char) (isExpression : Bool) : Reader (Option String) := do
  delimitedFrom mark isExpression ((← get).rest.length + 1) []

def hexValue (c : Char) : Option Nat :=
  if c.isDigit then some (c.toNat - 48)
  else if 'a' ≤ c.toLower && c.toLower ≤ 'f' then some (c.toLower.toNat - 87)
  else none

def coded (base most : Nat) (cs : List Char) : Option (Char × List Char) :=
  let ds := (cs.take most).takeWhile fun c => (hexValue c).any (· < base)
  if ds.isEmpty then none
  else
    let n := ds.foldl (fun n c => base * n + (hexValue c).getD 0) 0
    some (Char.ofNat (n % 256), cs.drop ds.length)

/-- Escapes that stand for one character; `special` tells which of those keep a backslash. -/
def normalized (special : Char → Bool) : Nat → List Char → List Char
  | 0, cs => cs
  | _, [] => []
  | fuel + 1, '\\' :: c :: rest =>
    let one (d : Char) (rest : List Char) : List Char :=
      if special d then '\\' :: d :: normalized special fuel rest
      else d :: normalized special fuel rest
    let same : List Char := '\\' :: c :: normalized special fuel rest
    match c with
    | 'a' => one '\x07' rest
    | 'f' => one '\x0c' rest
    | 'r' => one '\r' rest
    | 't' => one '\t' rest
    | 'v' => one '\x0b' rest
    | 'c' =>
      match rest with
      | d :: rest => one (Char.ofNat (d.toUpper.toNat ^^^ 64)) rest
      | [] => same
    | 'd' => (coded 10 3 rest).elim same fun (d, rest) => one d rest
    | 'o' => (coded 8 3 rest).elim same fun (d, rest) => one d rest
    | 'x' => (coded 16 2 rest).elim same fun (d, rest) => one d rest
    | _ => same
  | fuel + 1, c :: rest => c :: normalized special fuel rest

def expression (text : String) (ignoresCase isByLine : Bool) : Reader Expression := do
  if text.isEmpty then
    if ignoresCase || isByLine then refuse "cannot specify modifiers on empty regexp"
    else return none
  else
    let base := if (← get).isExtended then Dialect.extended else Dialect.basic
    let d : Dialect := { base with ignoresCase }
    let cs := normalized ("$*.[]^\\/+?(){}|".contains ·) (text.length + 1) text.toList
    match Regex.read d isByLine (String.ofList cs) with
    | .ok (c, _) => return some c
    | .error fault => refuse fault.text

def modifiers : Nat → Bool → Bool → Reader (Bool × Bool)
  | 0, i, m => return (i, m)
  | fuel + 1, i, m => do
    match ← look with
    | some 'I' =>
      let _ ← take
      modifiers fuel true m
    | some 'M' =>
      let _ ← take
      modifiers fuel i true
    | _ => return (i, m)

def addressExpression : Reader (Option Expression) := do
  match ← look with
  | some '/' | some '\\' =>
    let c ← take
    let mark ← if c = some '\\' then take else pure c
    match mark with
    | none => refuse "unexpected \x60,'"
    | some mark =>
      match ← delimited mark true with
      | none => refuse "unterminated address regex"
      | some text =>
        let (i, m) ← modifiers 1000 false false
        return some (← expression text i m)
  | _ => return none

def firstAddress : Reader (Option Address) := do
  match ← look with
  | some '$' =>
    let _ ← take
    return some .last
  | some c =>
    if c.isDigit then
      let n := (← number).getD 0
      passBlanks
      if (← look) = some '~' then
        let _ ← take
        passBlanks
        let step := (← number).getD 0
        return some (if step > 0 then .every n step else if n = 0 then .zero else .line n)
      else return some (if n = 0 then .zero else .line n)
    else if c = '+' || c = '~' then
      let _ ← take
      match ← number with
      | some _ => refuse "invalid usage of +N or ~N as first address"
      | none => refuse "expected \\ after"
    else return (← addressExpression).map .fits
  | none => return none

def limit : Reader (Option Limit) := do
  match ← look with
  | some '$' =>
    let _ ← take
    return some .last
  | some c =>
    if c.isDigit then return (← number).map .line
    else if c = '+' then
      let _ ← take
      return some (.further ((← number).getD 0))
    else if c = '~' then
      let _ ← take
      return some (.multiple ((← number).getD 0))
    else return (← addressExpression).map .fits
  | none => return none

def negation : Reader Bool := do
  passSpaces
  if (← look) = some '!' then
    let _ ← take
    passSpaces
    if (← look) = some '!' then
      let _ ← take
      refuse "multiple \x60!'s"
    return true
  else return false

def range : Reader Range := do
  let first ← firstAddress
  match first with
  | none => return ⟨none, none, ← negation⟩
  | some a =>
    passSpaces
    if (← look) = some ',' then
      let _ ← take
      passSpaces
      match ← limit with
      | none =>
        let _ ← take
        refuse "unexpected \x60,'"
      | some l =>
        match a, l with
        | .zero, .fits _ => pure ()
        | .zero, _ =>
          passSpaces
          let _ ← take
          refuse "invalid usage of line address 0"
        | _, _ => pure ()
        return ⟨first, some l, ← negation⟩
    else
      match a with
      | .zero => do
        let _ ← take
        refuse "invalid usage of line address 0"
      | _ => return ⟨first, none, ← negation⟩

def restOfLine : Reader String := do
  let cs ← takeWhile (· ≠ '\n')
  let _ ← take
  return String.ofList cs

def fileName : Reader String := do
  passBlanks
  let name ← restOfLine
  if name.isEmpty then refuse "missing filename in r/R/w/W commands" else return name

def addOutput (path : String) : Reader Unit :=
  modify fun p =>
    { p with outputs := if p.outputs.contains path then p.outputs else p.outputs ++ [path] }

def label : Reader String := do
  passBlanks
  return String.ofList (← takeWhile fun c => !isSpace c && c ≠ ';' && c ≠ '\x7d')

def textFrom : Nat → List Char → Reader String
  | 0, acc => return String.ofList acc.reverse
  | fuel + 1, acc => do
    match ← take with
    | none | some '\n' => return String.ofList ('\n' :: acc).reverse
    | some '\\' =>
      match ← take with
      | none => return String.ofList ('\n' :: acc).reverse
      | some e =>
        match e with
        | 'a' => textFrom fuel ('\x07' :: acc)
        | 'f' => textFrom fuel ('\x0c' :: acc)
        | 'n' => textFrom fuel ('\n' :: acc)
        | 'r' => textFrom fuel ('\r' :: acc)
        | 't' => textFrom fuel ('\t' :: acc)
        | 'v' => textFrom fuel ('\x0b' :: acc)
        | e =>
          let p ← get
          let code :=
            match e with
            | 'd' => coded 10 3 p.rest
            | 'o' => coded 8 3 p.rest
            | 'x' => coded 16 2 p.rest
            | _ => none
          match code with
          | some (c, rest) =>
            set { p with rest, position := p.position + (p.rest.length - rest.length) }
            textFrom fuel (c :: acc)
          | none => textFrom fuel (e :: acc)
    | some c => textFrom fuel (c :: acc)

def text : Reader String := do
  passSpaces
  match ← take with
  | none => refuse "expected \\ after \x60a', \x60c' or \x60i'"
  | some '\\' =>
    let p ← get
    let blanks := p.rest.takeWhile isBlank
    match p.rest.drop blanks.length with
    | '\n' :: rest =>
      set { p with rest, position := p.position + blanks.length + 1 }
      textFrom (rest.length + 2) []
    | [] => return ""
    | _ =>
      match p.rest with
      | c :: rest =>
        if c = '\\' then textFrom (p.rest.length + 2) []
        else
          set { p with rest, position := p.position + 1 }
          textFrom (rest.length + 2) [c]
      | [] => return ""
  | some c =>
    putBack (some c)
    textFrom ((← get).rest.length + 2) []

/-- The parts of a replacement; `pending` is the text in front of the next one, the last character
first. -/
def parts (groups : Nat) : Nat → List Char → List Char → Reader (List Part)
  | 0, _, _ => return []
  | fuel + 1, cs, pending => do
    let flush (ps : List Part) : List Part :=
      if pending.isEmpty then ps else .text (String.ofList pending.reverse) :: ps
    match cs with
    | [] => return flush []
    | '&' :: rest => return flush (.group 0 :: (← parts groups fuel rest []))
    | '\\' :: c :: rest =>
      let change (k : CaseChange) : Reader (List Part) := do
        return flush (.change k :: (← parts groups fuel rest []))
      if c.isDigit then
        let n := c.toNat - 48
        if groups < n then
          refuse ("invalid reference \\" ++ c.toString ++ " on \x60s' command's RHS")
        else return flush (.group n :: (← parts groups fuel rest []))
      else
        match c with
        | 'U' => change .upper
        | 'L' => change .lower
        | 'u' => change .upperNext
        | 'l' => change .lowerNext
        | 'E' => change .stop
        | 'n' => parts groups fuel rest ('\n' :: pending)
        | c => parts groups fuel rest (c :: pending)
    | c :: rest => parts groups fuel rest (c :: pending)

structure Flags where
  isGlobal : Bool
  prints : Bool
  nth : Option Nat
  ignoresCase : Bool
  isByLine : Bool
  executes : Bool
  file : Option String

def flags : Nat → Flags → Reader Flags
  | 0, f => return f
  | fuel + 1, f => do
    match ← take with
    | none | some '\n' | some ';' => return f
    | some c =>
      match c with
      | 'g' =>
        if f.isGlobal then refuse "multiple \x60g' options to \x60s' command"
        flags fuel { f with isGlobal := true }
      | 'p' =>
        if f.prints then refuse "multiple \x60p' options to \x60s' command"
        flags fuel { f with prints := true }
      | 'i' | 'I' => flags fuel { f with ignoresCase := true }
      | 'm' | 'M' => flags fuel { f with isByLine := true }
      | 'e' => flags fuel { f with executes := true }
      | 'w' =>
        let path ← fileName
        addOutput path
        return { f with file := some path }
      | '#' | '\x7d' =>
        putBack (some c)
        return f
      | c =>
        if c.isDigit then
          if f.nth.isSome then refuse "multiple number options to \x60s' command"
          putBack (some c)
          let n := (← number).getD 0
          if n = 0 then refuse "number option to \x60s' command may not be zero"
          flags fuel { f with nth := some n }
        else if isBlank c || c = '\r' then flags fuel f
        else refuse "unknown option to \x60s'"

def substitution : Reader Substitution := do
  let unterminated {α : Type} : Reader α := refuse "unterminated \x60s' command"
  match ← take with
  | none => unterminated
  | some mark =>
    if mark = '\n' || mark = '\\' then unterminated
    match ← delimited mark true with
    | none => unterminated
    | some pattern =>
      match ← delimited mark false with
      | none => unterminated
      | some replacement =>
        let f ← flags 10000 ⟨false, false, none, false, false, false, none⟩
        let e ← expression pattern f.ignoresCase f.isByLine
        let cs :=
          normalized (fun c => c = '&' || c = '\\') (replacement.length + 1) replacement.toList
        let groups := e.elim 9 (·.groups)
        let ps ← parts groups (cs.length + 1) cs []
        return ⟨e, ps, f.nth.getD 1, f.isGlobal, f.prints, f.executes, f.file⟩

def transliteration : Reader (List (Char × Char)) := do
  let unterminated {α : Type} : Reader α := refuse "unterminated \x60y' command"
  match ← take with
  | none => unterminated
  | some mark =>
    match ← delimited mark false with
    | none => unterminated
    | some first =>
      match ← delimited mark false with
      | none => unterminated
      | some second =>
        let a ← plainChars (first.length + 1) first.toList
        let b ← plainChars (second.length + 1) second.toList
        if a.length ≠ b.length then refuse "strings for \x60y' command are different lengths"
        finish
        return a.zip b
where
  plainChars : Nat → List Char → Reader (List Char)
    | 0, _ | _, [] => return []
    | fuel + 1, '\\' :: rest => do
      match normalized (fun _ => false) 2 ('\\' :: rest) with
      | '\\' :: _ =>
        match rest with
        | '\\' :: rest => return '\\' :: (← plainChars fuel rest)
        | 'n' :: rest => return '\n' :: (← plainChars fuel rest)
        | '\n' :: rest => return '\n' :: (← plainChars fuel rest)
        | rest => return '\\' :: (← plainChars fuel rest)
      | _ =>
        let cs := normalized (fun _ => false) (rest.length + 2) ('\\' :: rest)
        match cs with
        | c :: _ =>
          let used := ('\\' :: rest).length - (behind ('\\' :: rest)).length
          return c :: (← plainChars fuel (('\\' :: rest).drop used))
        | [] => return []
    | fuel + 1, c :: rest => return c :: (← plainChars fuel rest)
  behind : List Char → List Char
    | '\\' :: 'd' :: rest => (coded 10 3 rest).elim rest (·.2)
    | '\\' :: 'o' :: rest => (coded 8 3 rest).elim rest (·.2)
    | '\\' :: 'x' :: rest => (coded 16 2 rest).elim rest (·.2)
    | '\\' :: 'c' :: rest => rest.drop 1
    | '\\' :: _ :: rest => rest
    | rest => rest

def add (c : Command) : Reader Unit := modify fun p => { p with commands := p.commands.push c }

def optionalNumber : Reader (Option Nat) := do
  passBlanks
  let n ← number
  finish
  return n

def isNewer : List Char → List Char → Nat → Bool
  | [], _, _ | _, _, 0 => false
  | _ :: _, [], _ => true
  | a :: as, b :: bs, fuel + 1 =>
    if a.isDigit && b.isDigit then
      let ds := (a :: as).takeWhile Char.isDigit
      let es := (b :: bs).takeWhile Char.isDigit
      let m := (String.ofList ds).toNat?.getD 0
      let n := (String.ofList es).toNat?.getD 0
      if m = n then isNewer (as.drop (ds.length - 1)) (bs.drop (es.length - 1)) fuel else n < m
    else if a = b then isNewer as bs fuel
    else b < a

def commandBehind (r : Range) (letter : Char) : Reader Unit := do
  let simple (a : Action) : Reader Unit := do
    finish
    add ⟨r, a⟩
  let atMostOne : Reader Unit := do
    if r.last.isSome then refuse "command only uses one address"
  let branch (ifReplaced : Option Bool) : Reader Unit := do
    let l ← label
    passBlanks
    if (← look) = some ';' || (← look) = some '\n' then
      let _ ← take
    modify fun p => { p with jumps := ⟨p.commands.size, l⟩ :: p.jumps }
    add ⟨r, .branch ifReplaced 0⟩
  match letter with
  | '\x7b' =>
    modify fun p => { p with openBlocks := p.commands.size :: p.openBlocks }
    add ⟨r, .openBlock 0⟩
  | '\x7d' =>
    let p ← get
    match p.openBlocks with
    | [] => refuse "unexpected \x60\x7d'"
    | start :: rest =>
      if r.first.isSome then refuse "\x60\x7d' doesn't want any addresses"
      let index := p.commands.size
      set { p with
        openBlocks := rest
        commands := p.commands.modify start fun c => { c with action := .openBlock index } }
      finish
      add ⟨r, .closeBlock⟩
  | ':' =>
    if r.first.isSome then refuse ": doesn't want any addresses"
    let name ← label
    if name.isEmpty then refuse "\":\" lacks a label"
    modify fun p => { p with labels := (name, p.commands.size) :: p.labels }
    add ⟨r, .nothing⟩
    passBlanks
    if (← look) = some ';' then
      let _ ← take
  | '#' =>
    if r.first.isSome then refuse "comments don't accept any addresses"
    let _ ← restOfLine
  | '=' => simple .number
  | 'a' => add ⟨r, .append (← text)⟩
  | 'i' => add ⟨r, .insert (← text)⟩
  | 'c' => add ⟨r, .change (← text)⟩
  | 'b' => branch none
  | 't' => branch (some true)
  | 'T' => branch (some false)
  | 'd' => simple .delete
  | 'D' => simple .deleteLine
  | 'e' => do
    passBlanks
    add ⟨r, .execute (← restOfLine)⟩
  | 'F' => simple .fileName
  | 'g' => simple .getHeld
  | 'G' => simple .addHeld
  | 'h' => simple .hold
  | 'H' => simple .holdMore
  | 'l' => add ⟨r, .list (← optionalNumber)⟩
  | 'n' => simple .next
  | 'N' => simple .appendNext
  | 'p' => simple .print
  | 'P' => simple .printLine
  | 'q' =>
    atMostOne
    add ⟨r, .quit ((← optionalNumber).getD 0) false⟩
  | 'Q' =>
    atMostOne
    add ⟨r, .quit ((← optionalNumber).getD 0) true⟩
  | 'r' => add ⟨r, .readFile (← fileName)⟩
  | 'R' => add ⟨r, .readLineOf (← fileName)⟩
  | 's' =>
    let s ← substitution
    add ⟨r, .substitute s⟩
  | 'v' =>
    let version ← label
    if isNewer version.toList "4.9".toList (version.length + 4) then
      refuse "expected newer version of sed"
  | 'w' =>
    let path ← fileName
    addOutput path
    add ⟨r, .writeAll path⟩
  | 'W' =>
    let path ← fileName
    addOutput path
    add ⟨r, .writeLine path⟩
  | 'x' => simple .exchange
  | 'y' => add ⟨r, .transliterate (← transliteration)⟩
  | 'z' => simple .zap
  | c => refuse ("unknown command: \x60" ++ c.toString ++ "'")

def commandsFrom : Nat → Reader Unit
  | 0 => pure ()
  | fuel + 1 => do
    let _ ← takeWhile fun c => isSpace c || c = ';'
    if (← look).isNone then pure ()
    else
      let r ← range
      match ← take with
      | none => refuse "missing command"
      | some c =>
        if r.first.isSome && (c = '\n' || c = ';') then refuse "missing command"
        commandBehind r c
        commandsFrom fuel

def resolve : Reader Unit := do
  let p ← get
  for j in p.jumps.reverse do
    let target ←
      if j.label.isEmpty then pure p.commands.size
      else
        match p.labels.lookup j.label with
        | some n => pure n
        | none => throw ⟨"can't find label for jump to \x60" ++ j.label ++ "'", none⟩
    modify fun p =>
      { p with commands := p.commands.modify j.index fun c =>
          match c.action with
          | .branch ifReplaced _ => { c with action := .branch ifReplaced target }
          | _ => c }

def script : Reader Unit := do
  commandsFrom ((← get).rest.length + 1)
  if !(← get).openBlocks.isEmpty then throw ⟨"unmatched \x60\x7b'", some 0⟩
  resolve

end Reader

/-- The script that a text is. If it is none, the files that the commands in front of the fault
write to are told too. -/
def readScript (isExtended : Bool) (mark : Char) (text : String) :
    Except (Refusal × List String) Script := do
  let isQuiet := text == "#n" || text.startsWith "#n\n"
  match Reader.script.run ⟨text.toList, 0, #[], [], [], [], [], isExtended, mark⟩ with
  | (.ok (), p) => return ⟨p.commands, p.outputs, isQuiet⟩
  | (.error r, p) => throw (r, p.outputs)

end ServerKeeper.Tool.StreamEditor
