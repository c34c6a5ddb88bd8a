import ServerKeeper.Regex.Machine

namespace ServerKeeper.Regex

inductive Fault
  | unmatchedBracket
  | unmatchedGroup
  | unmatchedClose
  | unmatchedBrace
  | badInterval
  | badRangeEnd
  | badReference
  | trailingBackslash
  | badRepetition
  | badClassName
  | badCollation
  | tooBig
  | invalid
  | bareClass
  | missingOperand
  deriving DecidableEq, Repr

namespace Fault

def text : Fault → String
  | unmatchedBracket => "Unmatched [, [^, [:, [., or [="
  | unmatchedGroup => "Unmatched ( or \\("
  | unmatchedClose => "Unmatched ) or \\)"
  | unmatchedBrace => "Unmatched \\\x7b"
  | badInterval => "Invalid content of \\\x7b\\\x7d"
  | badRangeEnd => "Invalid range end"
  | badReference => "Invalid back reference"
  | trailingBackslash => "Trailing backslash"
  | badRepetition => "Invalid preceding regular expression"
  | badClassName => "Invalid character class name"
  | badCollation => "Invalid collation character"
  | tooBig => "Regular expression too big"
  | invalid => "Invalid regular expression"
  | bareClass => "character class syntax is [[:space:]], not [:space:]"
  | missingOperand => "missing operand"

end Fault

inductive Leading
  | plain
  | ignored
  | refused
  deriving DecidableEq

structure Dialect where
  isExtended : Bool
  leading : Leading
  leadingInterval : Leading
  closesLoosely : Bool
  bracesLoosely : Bool
  escapesInBrackets : Bool
  knowsLetters : Bool
  needsOperands : Bool
  refusesBareClass : Bool
  /-- Whether what is repeated may not be repeated again by a star or an interval. -/
  repeatsOnce : Bool
  allowsEmptyRanges : Bool
  ignoresCase : Bool

namespace Dialect

def basic : Dialect :=
  { isExtended := false
    leading := .plain
    leadingInterval := .refused
    closesLoosely := false
    bracesLoosely := false
    escapesInBrackets := false
    knowsLetters := true
    needsOperands := false
    refusesBareClass := false
    repeatsOnce := true
    allowsEmptyRanges := false
    ignoresCase := false }

def extended : Dialect :=
  { basic with isExtended := true, leading := .refused, repeatsOnce := false }

/-- The basic form of tools for which a repetition stands for itself wherever nothing is repeated.
-/
def plainBasic : Dialect :=
  { basic with leadingInterval := .plain, repeatsOnce := false }

end Dialect

/-- An expression in the loose form, written in the extended one: in the loose form a backslash
gives groups and choices their meaning, and there are no intervals. -/
def extendedOfLoose : Nat → List Char → List Char
  | 0, cs => cs
  | _, [] => []
  | fuel + 1, '\\' :: c :: rest =>
    if "()|".contains c then c :: extendedOfLoose fuel rest
    else '\\' :: c :: extendedOfLoose fuel rest
  | fuel + 1, '[' :: rest =>
    let (first, rest) :=
      match rest with
      | '^' :: ']' :: rest => (['^', ']'], rest)
      | ']' :: rest => ([']'], rest)
      | rest => ([], rest)
    let members := rest.takeWhile (· ≠ ']')
    '[' :: first ++ members ++ extendedOfLoose fuel (rest.drop members.length)
  | fuel + 1, c :: rest =>
    if "()|\x7b\x7d".contains c then '\\' :: c :: extendedOfLoose fuel rest
    else c :: extendedOfLoose fuel rest

/-- What has been read: how many groups were opened, which ones are closed, and what was odd. -/
structure Notes where
  groups : Nat
  closed : List Nat
  isFresh : Bool
  oddities : List String

abbrev Reading := StateT Notes (Except Fault)

namespace Reading

def setOf (d : Dialect) (p : Char → Bool) : Node :=
  if d.ignoresCase then
    .set (.ofTest fun c => p c || p (lowered c) || p (raised c))
  else .set (.ofTest p)

def charNode (d : Dialect) (c : Char) : Node :=
  if d.ignoresCase && isLetter c then .set (.ofTest fun b => lowered b = lowered c) else .char c

def untilMark (a b : Char) : List Char → Option (List Char × List Char)
  | c :: d :: rest =>
    if c = a && d = b then some ([], rest)
    else (untilMark a b (d :: rest)).map fun (cs, rest) => (c :: cs, rest)
  | _ => none

inductive Item
  | one (c : Char)
  | many (p : Char → Bool)

def item (d : Dialect) : List Char → Except Fault (Item × List Char)
  | [] => throw .unmatchedBracket
  | '[' :: ':' :: rest => do
    match untilMark ':' ']' rest with
    | none =>
      if d.escapesInBrackets then return (.one '[', ':' :: rest) else throw .unmatchedBracket
    | some (name, rest) =>
      match classTest? (String.ofList name) with
      | some p => return (.many p, rest)
      | none => throw .badClassName
  | '[' :: '=' :: rest => collated '=' rest
  | '[' :: '.' :: rest => collated '.' rest
  | c :: rest =>
    match c, d.escapesInBrackets, rest with
    | '\\', true, e :: rest => return (.one e, rest)
    | c, _, rest => return (.one c, rest)
where
  collated (mark : Char) (rest : List Char) : Except Fault (Item × List Char) := do
    match untilMark mark ']' rest with
    | none => throw .unmatchedBracket
    | some ([c], rest) => return (.one c, rest)
    | some _ => throw .badCollation

def Item.test : Item → Char → Bool
  | one a => fun c => c = a
  | many p => p

def items (d : Dialect) : Nat → Bool → List Char → (Char → Bool) →
    Except Fault ((Char → Bool) × List Char)
  | 0, _, _, _ => throw .unmatchedBracket
  | fuel + 1, isFirst, cs, p => do
    match cs, isFirst with
    | ']' :: rest, false => return (p, rest)
    | cs, _ =>
      let (first, rest) ← item d cs
      match rest with
      | '-' :: next :: rest' =>
        if next = ']' then return (fun c => p c || first.test c || c = '-', rest')
        else
          let (last, rest) ← item d (next :: rest')
          match first, last with
          | .one a, .one b =>
            if b < a && !d.allowsEmptyRanges then throw .badRangeEnd
            else items d fuel false rest fun c => p c || a ≤ c && c ≤ b
          | _, _ => throw .badRangeEnd
      | rest => items d fuel false rest fun c => p c || first.test c

def bracket (d : Dialect) (cs : List Char) : Reading (Node × List Char) := do
  let (isNegated, inner) :=
    match cs with
    | '^' :: rest => (true, rest)
    | cs => (false, cs)
  if inner.isEmpty && !d.escapesInBrackets then throw .invalid
  let (p, rest) ← liftM (items d (inner.length + 1) true inner fun _ => false)
  if d.refusesBareClass then
    let text := cs.take (cs.length - rest.length - 1)
    match text with
    | ':' :: more => if more.getLast? = some ':' && more.length > 1 then throw .bareClass
    | _ => pure ()
  if isNegated then
    match setOf d p with
    | .set s => return (.set (.ofTest fun c => !s.contains c), rest)
    | node => return (node, rest)
  else return (setOf d p, rest)

def letter? (d : Dialect) (c : Char) : Option Node :=
  if !d.knowsLetters then none
  else
    match c with
    | 'w' => some (setOf d isWord)
    | 'W' => some (.set (.ofTest fun c => !isWord c))
    | 's' => some (setOf d isSpace)
    | 'S' => some (.set (.ofTest fun c => !isSpace c))
    | 'b' => some (.edge .word)
    | 'B' => some (.edge .notWord)
    | '<' => some (.edge .wordStart)
    | '>' => some (.edge .wordEnd)
    | '\x60' => some (.edge .textStart)
    | '\'' => some (.edge .textEnd)
    | _ => none

def number? (cs : List Char) : Option Nat × List Char :=
  let ds := cs.takeWhile isDigit
  (if ds.isEmpty then none else (String.ofList ds).toNat?, cs.drop ds.length)

def maxTimes : Nat := 32767

/-- Passes a bound of an interval. Gives what follows the comma behind it, or nothing if the
interval is closed there; and tells whether the bound is a number or empty. -/
def boundPassed (isExtended : Bool) : List Char → Bool → Option (Bool × Option (List Char))
  | [], _ => none
  | ',' :: rest, isSound | '\\' :: ',' :: rest, isSound => some (isSound, some rest)
  | '\x7d' :: rest, isSound =>
    if isExtended then some (isSound, none) else boundPassed isExtended rest false
  | '\\' :: '\x7d' :: rest, isSound =>
    if isExtended then boundPassed isExtended rest false else some (isSound, none)
  | '\\' :: _ :: rest, _ => boundPassed isExtended rest false
  | c :: rest, isSound => boundPassed isExtended rest (isSound && isDigit c)

def intervalFault (isExtended : Bool) (cs : List Char) : Fault :=
  match boundPassed isExtended cs true with
  | none => .unmatchedBrace
  | some (true, some rest) =>
    if (boundPassed isExtended rest true).isNone then .unmatchedBrace else .badInterval
  | some _ => .badInterval

def interval (d : Dialect) (cs : List Char) :
    Except Fault (Option ((Nat × Option Nat) × List Char)) := do
  let loosely {α : Type} : Except Fault (Option α) :=
    if d.bracesLoosely then return none else throw (intervalFault d.isExtended cs)
  let closed? (cs : List Char) : Option (List Char) :=
    match cs, d.isExtended with
    | '\x7d' :: rest, true => some rest
    | '\\' :: '\x7d' :: rest, false => some rest
    | _, _ => none
  let (least?, rest) := number? cs
  let finish (least : Nat) (most : Option Nat) (rest : List Char) :
      Except Fault (Option ((Nat × Option Nat) × List Char)) := do
    if most.any (· < least) then throw .badInterval
    else if maxTimes < most.getD least then
      if d.needsOperands then return none else throw .tooBig
    else return some ((least, most), rest)
  match closed? rest, least? with
  | some rest, some n => finish n (some n) rest
  | some _, none => loosely
  | none, _ =>
    match rest with
    | ',' :: rest =>
      let (most?, after) := number? rest
      match closed? after with
      | some after => finish (least?.getD 0) most? after
      | none => loosely
    | _ => loosely

inductive Token
  | node (n : Node)
  | opening
  | closing
  | bar
  | repetition (shown : String) (least : Nat) (most : Option Nat)
  | brace

/-- The next part of an expression, and what follows. Whether it is at a start, and what was there
before, matters in the basic form. -/
def token (d : Dialect) (isStart : Bool) : List Char → Reading (Token × List Char)
  | [] => return (.node .empty, [])
  | '\\' :: rest => do
    match rest with
    | [] => throw .trailingBackslash
    | c :: rest =>
      if !d.isExtended then
        match c with
        | '(' => return (.opening, rest)
        | ')' => return (.closing, rest)
        | '|' => return (.bar, rest)
        | '\x7b' => return (.brace, rest)
        | '+' => return (.repetition "+" 1 none, rest)
        | '?' => return (.repetition "?" 0 (some 1), rest)
        | _ => pure ()
      if '1' ≤ c && c ≤ '9' && d.knowsLetters then
        let n := c.toNat - 48
        if (← get).closed.contains n then return (.node (.reference n), rest)
        else throw .badReference
      match letter? d c with
      | some node => return (.node node, rest)
      | none => return (.node (charNode d c), rest)
  | '[' :: rest => do
    let (node, rest) ← bracket d rest
    return (.node node, rest)
  | '.' :: rest => return (.node (.set (.ofTest fun _ => true)), rest)
  | '*' :: rest => return (.repetition "*" 0 none, rest)
  | c :: rest =>
    if d.isExtended then
      match c with
      | '(' => return (.opening, rest)
      | ')' => return (.closing, rest)
      | '|' => return (.bar, rest)
      | '+' => return (.repetition "+" 1 none, rest)
      | '?' => return (.repetition "?" 0 (some 1), rest)
      | '\x7b' => return (.brace, rest)
      | '^' => return (.node (.edge .lineStart), rest)
      | '$' => return (.node (.edge .lineEnd), rest)
      | c => return (.node (charNode d c), rest)
    else
      let isEnd :=
        match rest with
        | [] | '\\' :: ')' :: _ | '\\' :: '|' :: _ => true
        | _ => false
      if c = '^' && isStart then return (.node (.edge .lineStart), rest)
      else if c = '$' && isEnd then return (.node (.edge .lineEnd), rest)
      else return (.node (charNode d c), rest)

def join (a b : Node) : Node :=
  match a with
  | .empty => b
  | a => .sequence a b

def isLineStart : Node → Bool
  | .edge .lineStart => true
  | _ => false

def isEdge : Node → Bool
  | .edge _ => true
  | _ => false

def isRepetition : Node → Bool
  | .times .. => true
  | _ => false

def setFresh (isFresh : Bool) : Reading Unit := modify fun s => { s with isFresh }

def remark (text : String) : Reading Unit :=
  modify fun s => { s with oddities := s.oddities ++ [text] }

mutual

def choices (d : Dialect) : Nat → Nat → List Char → Reading (Node × List Char)
  | 0, _, _ => throw .tooBig
  | fuel + 1, depth, cs => do
    let (first, rest, goesOn) ← branch d fuel depth cs .empty none
    if goesOn then
      let (second, rest) ← choices d fuel depth rest
      return (.choice first second, rest)
    else return (first, rest)

/-- Reads parts up to a bar or an end. The last part is kept apart, as it may be repeated. Tells
whether there was a bar. -/
def branch (d : Dialect) : Nat → Nat → List Char → Node → Option Node →
    Reading (Node × List Char × Bool)
  | 0, _, _, _, _ => throw .tooBig
  | fuel + 1, depth, cs, before, last => do
    let whole := last.elim before (join before)
    let isStart := last.isNone && (match before with | .empty => true | _ => false)
    let finish (rest : List Char) (goesOn : Bool) : Reading (Node × List Char × Bool) := do
      if d.needsOperands && last.isNone then throw .missingOperand
      return (whole, rest, goesOn)
    if cs.isEmpty then
      if depth > 0 then throw .unmatchedGroup
      finish [] false
    else
      let (t, rest) ← token d isStart cs
      match t with
      | .node n =>
        if !isEdge n then setFresh false
        branch d fuel depth rest whole (some n)
      | .bar =>
        setFresh true
        finish rest true
      | .closing =>
        setFresh false
        if depth > 0 then finish rest false
        else if d.closesLoosely then branch d fuel depth rest whole (some (.char ')'))
        else throw .unmatchedClose
      | .opening =>
        let n := (← get).groups + 1
        modify fun s => { s with groups := n, isFresh := true }
        let (inner, rest) ←
          if d.needsOperands && !isStart && rest.head? = some ')' then pure (.empty, rest.drop 1)
          else choices d fuel (depth + 1) rest
        modify fun s => { s with closed := n :: s.closed }
        branch d fuel depth rest whole (some (.group n inner))
      | .repetition shown least most =>
        if d.repeatsOnce && shown == "*" && last.any isRepetition then throw .badRepetition
        else if d.needsOperands && last.any isLineStart && shown != "?" then throw .badRepetition
        else if last.all (isEdge · && !d.needsOperands) then
          leading d fuel depth rest before last d.leading shown
        else branch d fuel depth rest before (last.map fun n => .times least most n)
      | .brace =>
        let isFresh := (← get).isFresh
        setFresh false
        if d.repeatsOnce && last.any isRepetition then throw .badRepetition
        else if last.all isEdge && d.leadingInterval = .refused && !d.needsOperands then
          throw .badRepetition
        else if last.all isEdge && d.leadingInterval = .plain then
          branch d fuel depth rest whole (some (.char '\x7b'))
        else
          match ← liftM (interval d rest) with
          | none => branch d fuel depth rest whole (some (.char '\x7b'))
          | some ((least, most), after) =>
            if last.all (isEdge · && !d.needsOperands) then
              if d.needsOperands then throw .tooBig
              setFresh isFresh
              leading d fuel depth after before last d.leadingInterval "\x7b...\x7d"
            else branch d fuel depth after before (last.map fun n => .times least most n)

def leading (d : Dialect) : Nat → Nat → List Char → Node → Option Node → Leading → String →
    Reading (Node × List Char × Bool)
  | 0, _, _, _, _, _, _ => throw .tooBig
  | fuel + 1, depth, rest, before, last, how, shown => do
    match how with
    | .refused => throw (if d.needsOperands then .missingOperand else .badRepetition)
    | .ignored =>
      if (← get).isFresh then remark (shown ++ " at start of expression")
      if shown.startsWith "\x7b" then setFresh false
      branch d fuel depth rest before (if shown == "*" || shown == "?" then none else last)
    | .plain =>
      let whole := last.elim before (join before)
      branch d fuel depth rest whole (some (charNode d (shown.toList.headD '*')))

end

end Reading

inductive Frame
  | anywhere
  | wholeWord
  | wholeLine
  deriving DecidableEq

def Frame.around (f : Frame) (n : Node) : Node :=
  match f with
  | anywhere => n
  | wholeWord => .sequence (.edge .noWordBefore) (.sequence n (.edge .noWordBehind))
  | wholeLine => .sequence (.edge .lineStart) (.sequence n (.edge .lineEnd))

def readIn (d : Dialect) (isByLine : Bool) (f : Frame) (text : String) :
    Except Fault (Compiled × List String) := do
  let cs := text.toList
  let ((node, _), notes) ← (Reading.choices d (4 * cs.length + 8) 0 cs).run ⟨0, [], true, []⟩
  return (compiled (f.around node) notes.groups d.ignoresCase isByLine, notes.oddities)

def read (d : Dialect) (isByLine : Bool) (text : String) : Except Fault (Compiled × List String) :=
  readIn d isByLine .anywhere text

def readLoose (f : Frame) (ignoresCase : Bool) (text : String) : Except Fault Compiled := do
  let d : Dialect := { Dialect.extended with allowsEmptyRanges := true, ignoresCase }
  let (c, _) ← readIn d false f (String.ofList (extendedOfLoose (text.length + 1) text.toList))
  return c

def fixed (ignoresCase : Bool) (f : Frame) (text : String) : Compiled :=
  let d : Dialect := { Dialect.basic with ignoresCase }
  let node := text.toList.foldr (fun c n =>
    match n with
    | .empty => Reading.charNode d c
    | n => .sequence (Reading.charNode d c) n) Node.empty
  compiled (f.around node) 0 ignoresCase false

end ServerKeeper.Regex
