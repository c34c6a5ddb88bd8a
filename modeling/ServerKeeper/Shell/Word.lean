import ServerKeeper.Shell.Reader

namespace ServerKeeper.Shell

open Reading

def isNameStart (c : Char) : Bool := c.isAlpha || c == '_'

def isNameChar (c : Char) : Bool := c.isAlphanum || c == '_'

def isName (s : String) : Bool :=
  match s.toList with
  | c :: cs => isNameStart c && cs.all isNameChar
  | [] => false

def isSpecial (c : Char) : Bool := c.isDigit || "@*#?-$!".contains c

inductive Mode
  | bare
  | single
  | double
  | arithmetic
  deriving DecidableEq

structure Level where
  mode : Mode
  inDouble : Bool
  innerDouble : Bool
  /-- How many braces of parameters are open, and how many of them in double quotes. -/
  braces : Nat
  doubleBraces : Nat
  parentheses : Nat

namespace Level

def bare : Level := ⟨.bare, false, false, 0, 0, 0⟩

def double : Level := ⟨.double, true, false, 0, 0, 0⟩

def single : Level := ⟨.single, false, false, 0, 0, 0⟩

def arithmetic : Level := ⟨.arithmetic, true, false, 0, 0, 0⟩

def isQuoted (l : Level) : Bool := l.inDouble || l.mode == .single

end Level

inductive Purpose
  | command
  | delimiter
  | document (a : Announced)

namespace Purpose

def isDocument : Purpose → Bool
  | document _ => true
  | _ => false

def isDelimiter : Purpose → Bool
  | delimiter => true
  | _ => false

end Purpose

def maxReading : Nat := 1000000000

namespace Word

def push (c : Char) (quoted : Bool) : Word → Word
  | .text s q :: parts =>
    if q == quoted then .text (s.push c) q :: parts
    else .text (String.singleton c) quoted :: .text s q :: parts
  | parts => .text (String.singleton c) quoted :: parts

def dropMark : Word → Word
  | .parameter "@" .plain e w q :: .text "" true :: parts => .parameter "@" .plain e w q :: parts
  | parts => parts

def plainText (w : Word) : String :=
  String.join (w.map fun
    | .text s _ => s
    | _ => "")

end Word

/-- A part of a word that was read: its parts, the last one first, whether a quote was in it, and
where it ended. -/
structure Stretch where
  parts : Word
  hasQuote : Bool
  level : Level

/-- The lines of a text up to a closing backquote; a backslash before some characters goes. -/
def backquoted (inDouble : Bool) : Nat → List Char → Reading String
  | 0, _ => fail "EOF in backquote substitution"
  | fuel + 1, acc => do
    match ← lookJoined with
    | none => fail "EOF in backquote substitution"
    | some '\x60' =>
      skip
      return String.ofList acc.reverse
    | some '\\' =>
      skip
      match ← look with
      | none => fail "EOF in backquote substitution"
      | some c =>
        skip
        if c = '\\' || c = '\x60' || c = '$' || c = '"' && inDouble then
          backquoted inDouble fuel (c :: acc)
        else backquoted inDouble fuel (c :: '\\' :: acc)
    | some c =>
      skip
      if c = '\n' then nextLine
      backquoted inDouble fuel (c :: acc)

def apart {α : Type} (text : String) (reading : Reading α) : Reading α := do
  let r ← get
  match reading (Reader.ofText text r.aliases r.documents) with
  | .ok a inner =>
    set { r with documents := inner.documents }
    return a
  | .error fault _ => throw fault

def taken (test : Char → Bool) : Nat → String → Reading String
  | 0, s => return s
  | fuel + 1, s => do
    match ← lookJoined with
    | some c =>
      if test c then
        skip
        taken test fuel (s.push c)
      else return s
    | none => return s

/-- The name of a parameter, and what is made of it if that shows in front of the name. -/
structure Named where
  name : String
  treatment : Option Treatment

def bracedName : Reading (Option Named) := do
  match ← lookJoined with
  | none =>
    return none
  | some c =>
    if isNameStart c then return some ⟨← taken isNameChar maxReading "", none⟩
    else if c.isDigit then return some ⟨← taken Char.isDigit maxReading "", none⟩
    else if c = '\x7d' then return none
    else
      skip
      if c = '#' then
        match ← lookJoined with
        | some d =>
          if isNameStart d then return some ⟨← taken isNameChar maxReading "", some .length⟩
          else if d.isDigit then return some ⟨← taken Char.isDigit maxReading "", some .length⟩
          else
            let before ← get
            skip
            let closes := (← lookJoined) = some '\x7d'
            if d = '\x7d' || !closes then
              set before
              return some ⟨"#", none⟩
            else if isSpecial d then return some ⟨String.singleton d, some .length⟩
            else return none
        | none => return some ⟨"#", none⟩
      else if isSpecial c then return some ⟨String.singleton c, none⟩
      else return none

def treatment : Reading (Treatment × Bool) := do
  let byLetter (c : Option Char) : Option Treatment :=
    match c with
    | some '-' => some .otherwise
    | some '+' => some .instead
    | some '?' => some .insist
    | some '=' => some .assign
    | _ => none
  match ← lookJoined with
  | some ':' =>
    skip
    let c ← lookJoined
    skip
    if c = some '\x7d' then return (.always, true) else return ((byLetter c).getD .unknown, true)
  | some '%' =>
    skip
    return (.cutEnd (← accept '%'), false)
  | some '#' =>
    skip
    return (.cutStart (← accept '#'), false)
  | some '\x7d' =>
    skip
    return (.plain, false)
  | c =>
    skip
    return ((byLetter c).getD .unknown, false)

def Treatment.hasPattern : Treatment → Bool
  | cutStart _ | cutEnd _ => true
  | _ => false

def Level.inBraces (l : Level) (t : Treatment) : Level :=
  let mode := if t.hasPattern then .bare else if l.mode = .arithmetic then .double else l.mode
  if mode ≠ l.mode || l.innerDouble then
    let inDouble := mode ≠ .bare
    ⟨mode, inDouble, false, 1, if inDouble then 1 else 0, 0⟩
  else
    { l with
      braces := l.braces + 1
      doubleBraces := if l.inDouble then l.doubleBraces + 1 else l.doubleBraces }

def isLastLine (a : Announced) (line : List Char) : Bool :=
  let line := if a.withoutTabs then line.dropWhile (· = '\t') else line
  String.ofList (line.takeWhile (· ≠ '\n')) == a.delimiter

/-- Whether a document ends here, at the start of a line; then its last line is passed. Tabs at the
start of another line are left out if they are not wanted. -/
def endsHere (a : Announced) : Reading Bool := do
  let r ← get
  if isLastLine a r.rest then
    set { r with rest := (r.rest.dropWhile (· ≠ '\n')).drop 1, line := r.line + 1 }
    return true
  else
    if a.withoutTabs then set { r with rest := r.rest.dropWhile (· = '\t') }
    return false

section

variable (commands : Bool → Reading Command)

/-- The part behind a dollar. `inside` reads what stands in braces or in an arithmetic expression.
-/
def dollar (inside : Level → Reading Stretch) (l : Level) (delimiter : Bool) :
    Reading (Part × Bool) := do
  let c ← lookJoined
  let quoted := l.isQuoted
  let isStart := c.any fun c => c = '(' || c = '\x7b' || isNameStart c || isSpecial c
  if delimiter || !isStart then return (.text "$" quoted, false)
  else
    match c with
    | some '(' =>
      skip
      if ← accept '(' then
        let s ← inside .arithmetic
        return (.arithmetic s.parts.reverse quoted, s.hasQuote)
      else return (.output (← commands true) quoted, false)
    | some '\x7b' =>
      skip
      let named ← bracedName
      let (name, treated, orEmpty) ← match named with
        | some ⟨name, some t⟩ =>
          if (← lookJoined) = some '\x7d' then
            skip
            pure (name, some t, false)
          else pure (name, none, false)
        | some ⟨name, none⟩ => do
          let (t, orEmpty) ← treatment
          pure (name, some t, orEmpty)
        | none => pure ("", none, false)
      match treated with
      | some .plain => return (.parameter name .plain false [] quoted, false)
      | some .length => return (.parameter name .length false [] quoted, false)
      | t =>
        let t := t.getD .unknown
        let s ← inside (l.inBraces t)
        return (.parameter name t orEmpty s.parts.reverse quoted, s.hasQuote)
    | some c =>
      if isNameStart c then
        return (.parameter (← taken isNameChar maxReading "") .plain false [] quoted, false)
      else
        skip
        return (.parameter (String.singleton c) .plain false [] quoted, false)
    | none => return (.text "$" quoted, false)

def endFault? (l : Level) (purpose : Purpose) : Option String :=
  if l.mode = .arithmetic then some "Missing '))'"
  else if l.mode ≠ .bare && !purpose.isDocument then some "Unterminated quoted string"
  else if l.braces ≠ 0 then some "Missing '\x7d'"
  else none

/-- A character that a backslash stands in front of. The backslash goes, unless it is in double
quotes and means nothing there. -/
def escaped (l : Level) (purpose : Purpose) (c : Char) (acc : Word) : Word :=
  let isKept := l.inDouble && !("\\\x60$".contains c) &&
    (c ≠ '"' || purpose.isDocument && l.braces = 0) && (c ≠ '\x7d' || l.braces = 0)
  Word.push c true (if isKept then Word.push '\\' true acc else acc)

/-- Reads on in a word: up to its end, or up to a bracket that closes what was opened before. -/
def stretch (purpose : Purpose) (fuel : Nat) (depth : Nat) (l : Level) (acc : Word)
    (hasQuote : Bool) : Reading Stretch :=
  match fuel with
  | 0 => return ⟨acc, hasQuote, l⟩
  | fuel + 1 => do
    let stop (l : Level) : Reading Stretch := return ⟨acc, hasQuote, l⟩
    let plain (c : Char) : Reading Stretch := do
      skip
      stretch purpose fuel depth l (Word.push c l.isQuoted acc) hasQuote
    let mark (acc : Word) : Word := if purpose.isDocument then acc else .text "" true :: acc
    let isEverywhere := l.mode ≠ .single
    match ← if l.mode = .single then look else lookJoined with
    | none =>
      match endFault? l purpose with
      | some text => fail text
      | none => stop l
    | some '\n' =>
      if l.mode = .bare && l.braces = 0 then stop l
      else
        skip
        nextLine
        let acc := Word.push '\n' l.isQuoted acc
        match purpose with
        | .document a =>
          if !a.isQuoted then let _ ← lookJoined
          if ← endsHere a then
            match endFault? l purpose with
            | some text => fail text
            | none => return ⟨acc, hasQuote, l⟩
          else stretch purpose fuel depth l acc hasQuote
        | _ => stretch purpose fuel depth l acc hasQuote
    | some '\\' =>
      if isEverywhere then
        skip
        match ← look with
        | none => stretch purpose fuel depth l (Word.push '\\' true acc) hasQuote
        | some c =>
          skip
          if c = '\n' then nextLine
          stretch purpose fuel depth l (escaped l purpose c acc) true
      else plain '\\'
    | some '\'' =>
      match l.mode with
      | .bare =>
        skip
        stretch purpose fuel depth { l with mode := .single } (mark acc) hasQuote
      | .single =>
        if purpose.isDocument && l.braces = 0 then plain '\''
        else
          skip
          let back : Level :=
            if l.doubleBraces = 0 then { l with mode := .bare, inDouble := false } else l
          stretch purpose fuel depth back acc true
      | _ => plain '\''
    | some '"' =>
      match l.mode with
      | .bare =>
        skip
        let inner := if l.braces > 0 then !l.innerDouble else l.innerDouble
        stretch purpose fuel depth
          { l with mode := .double, inDouble := true, innerDouble := inner } (mark acc) hasQuote
      | .double =>
        if purpose.isDocument && l.braces = 0 then plain '"'
        else
          skip
          let inner := if l.braces > 0 then !l.innerDouble else l.innerDouble
          let back : Level :=
            if l.doubleBraces = 0 then
              { l with mode := .bare, inDouble := false, innerDouble := inner }
            else { l with innerDouble := inner }
          stretch purpose fuel depth back (Word.dropMark acc) true
      | _ => plain '"'
    | some '$' =>
      if isEverywhere then
        skip
        let inside (inner : Level) : Reading Stretch :=
          stretch purpose fuel (depth + 1) inner [] false
        let (part, quoteInside) ← dollar commands inside l purpose.isDelimiter
        let acc :=
          match part with
          | .text _ _ => Word.push '$' l.isQuoted acc
          | part => part :: acc
        stretch purpose fuel depth l acc (hasQuote || quoteInside)
      else plain '$'
    | some '\x60' =>
      if isEverywhere && !purpose.isDelimiter then
        skip
        let text ← backquoted l.inDouble maxReading []
        let body ← apart text (commands false)
        stretch purpose fuel depth l (.output body l.isQuoted :: acc) hasQuote
      else plain '\x60'
    | some '\x7d' =>
      if isEverywhere && !l.innerDouble && l.braces > 0 && depth > 0 then
        skip
        stop l
      else plain '\x7d'
    | some c =>
      if l.mode = .arithmetic && c = '(' then
        skip
        stretch purpose fuel depth { l with parentheses := l.parentheses + 1 }
          (Word.push c true acc) hasQuote
      else if l.mode = .arithmetic && c = ')' then
        skip
        if l.parentheses > 0 then
          stretch purpose fuel depth { l with parentheses := l.parentheses - 1 }
            (Word.push c true acc) hasQuote
        else if ← accept ')' then stop l
        else stretch purpose fuel depth l (Word.push c true acc) hasQuote
      else if l.mode = .bare && l.braces = 0 && " \t;&|()<>".contains c then stop l
      else plain c

end

end ServerKeeper.Shell
