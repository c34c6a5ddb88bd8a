import ServerKeeper.Tool.Records.Pattern

namespace ServerKeeper.Tool.Records

structure Use where
  function : Option Nat
  name : Name
  isArray : Bool
  line : Nat
  shown : String

/-- What is handed to a function: a name as it is, or the value of an expression. -/
structure Passing where
  function : Option Nat
  name : Option Name
  callee : Nat
  position : Nat
  line : Nat

inductive Event
  | use (u : Use)
  | pass (p : Passing)

structure Promise where
  callee : Nat
  arguments : Nat
  line : Nat

structure Draft where
  scan : Scan
  ahead : Option Word
  names : Array String
  functions : Array (String × Option Function)
  function : Option Nat
  locals : List String
  events : List Event
  promises : List Promise
  loops : Nat
  hasRecord : Bool
  /-- Whether several expressions between parentheses may come next: as what is printed, or as a key
  that is looked for. -/
  mayBeTuple : Bool
  mayBeKeys : Bool
  ranges : Nat

abbrev Parser := ExceptT Unit (StateM Draft)

namespace Parser

def scan (f : Scan → Scan) : Parser Unit := modify fun d => { d with scan := f d.scan }

def peek : Parser Word := do
  match (← get).ahead with
  | some w => return w
  | none =>
    let (s, w) := (← get).scan.next
    modify fun d => { d with scan := s, ahead := some w }
    return w

def advance : Parser Word := do
  let w ← peek
  modify fun d => { d with ahead := none }
  return w

def passLines : Parser Unit := scan Scan.passLines

def refuse {α : Type} : Parser α := do
  let w ← peek
  let s := (← get).scan
  if !s.isOver then
    match w with
    | .unexpected c =>
      let text := toString s.lastLine ++ ": unexpected character '" ++ c.toString ++ "'"
      scan fun s => { s with complaints := text :: s.complaints }
    | .badNumber shown =>
      scan fun s => s.complainAt s.lastLine ("syntax error in decimal constant " ++ shown)
    | w =>
      let isEnd :=
        match w with
        | .theEnd | .newline | .semicolon | .impliedSemicolon | .rightBrace => true
        | _ => false
      let isLast := match w with
        | .theEnd => true
        | _ => false
      let text :=
        if isEnd && s.parentheses > 0 then "missing ) near " ++ w.shown
        else if isLast && s.braces > 0 then "missing \x7d near " ++ w.shown
        else "syntax error at or near " ++ w.shown
      scan fun s => s.complainAt s.lastLine text
  throw ()

def complain (text : String) : Parser Unit := scan fun s => s.complainAt s.lastLine text

def isWord (text : String) : Word → Bool
  | .keyword s => s == text
  | _ => false

def leftParenthesis : Parser Unit := do
  match ← peek with
  | .leftParenthesis => let _ ← advance
  | _ => refuse

def rightParenthesis : Parser Unit := do
  match ← peek with
  | .rightParenthesis => let _ ← advance
  | _ => refuse

def comma : Parser Unit := do
  match ← peek with
  | .comma => let _ ← advance
  | _ => refuse

def isSeparator : Word → Bool
  | .newline | .semicolon | .impliedSemicolon => true
  | _ => false

def endsPrinted : Word → Bool
  | .redirect _ => true
  | w => isSeparator w

def separator : Parser Unit := do
  if isSeparator (← peek) then let _ ← advance else refuse

def nameOf (s : String) : Parser Name := do
  let d ← get
  match d.locals.idxOf? s with
  | some i => return .local i
  | none =>
    match d.names.idxOf? s with
    | some i => return .overall i
    | none =>
      set { d with names := d.names.push s }
      return .overall d.names.size

def use (n : Name) (isArray : Bool) : Parser Unit :=
  modify fun d =>
    let shown :=
      match n with
      | .overall i => d.names.getD i ""
      | .local i => d.locals.getD i ""
    { d with events := .use ⟨d.function, n, isArray, d.scan.lastLine, shown⟩ :: d.events }

def forgetUse : Parser Unit := modify fun d => { d with events := d.events.drop 1 }

def functionOf (s : String) : Parser Nat := do
  let d ← get
  match d.functions.findIdx? (·.1 == s) with
  | some i => return i
  | none =>
    set { d with functions := d.functions.push (s, none) }
    return d.functions.size

def isFunction (s : String) : Parser Bool := do
  let d ← get
  return !d.locals.contains s && d.functions.any (·.1 == s)

def isPlace : Expression → Bool
  | .variable _ | .element .. | .field _ => true
  | _ => false

def beginsOperand : Word → Bool
  | .number .. | .text _ | .name _ | .call _ | .builtin _ | .leftParenthesis | .dollar | .field _
  | .not | .step _ | .regex _ => true
  | .keyword s => ["getline", "length", "split", "match", "sub", "gsub"].contains s
  | _ => false

def arity (name : String) : Nat × Nat :=
  match name with
  | "index" | "atan2" => (2, 2)
  | "substr" => (2, 3)
  | "sprintf" => (1, 255)
  | "rand" | "systime" => (0, 0)
  | "srand" | "fflush" => (0, 1)
  | "strftime" => (0, 3)
  | _ => (1, 1)

def compiled (text : String) : Parser Expression := do
  match Expressions.compile text with
  | .ok r => return .regex r
  | .error why =>
    complain why
    return .number 0

def asPattern (e : Expression) : Parser Expression :=
  match e with
  | .text s => compiled s
  | e => return e

mutual

def expression : Nat → Parser Expression
  | 0 => refuse
  | fuel + 1 => do
    let c ← climb fuel 1
    match ← peek with
    | .question =>
      let _ ← advance
      let a ← expression fuel
      match ← peek with
      | .colon =>
        let _ ← advance
        return .choice c a (← expression fuel)
      | _ => refuse
    | _ => return c

def climb : Nat → Nat → Parser Expression
  | 0, _ => refuse
  | fuel + 1, least => do
    modify fun d => { d with mayBeKeys := true }
    climbOn fuel least (← operand fuel)

def climbOn : Nat → Nat → Expression → Parser Expression
  | 0, _, _ => refuse
  | fuel + 1, least, left => do
    match ← peek with
    | .or =>
      if 1 < least then return left
      let _ ← advance
      climbOn fuel least (.either left (← climb fuel 2))
    | .and =>
      if 2 < least then return left
      let _ ← advance
      climbOn fuel least (.both left (← climb fuel 3))
    | .keyword "in" =>
      if 3 < least then return left
      let _ ← advance
      climbOn fuel least (.contains [left] (← arrayName))
    | .fits isNegated =>
      if 4 < least then return left
      let _ ← advance
      climbOn fuel least (.fits isNegated left (← asPattern (← climb fuel 5)))
    | .relation r =>
      if 5 < least then return left
      let _ ← advance
      climbOn fuel least (.compare r left (← climb fuel 6))
    | _ => return left

def arrayName : Parser Name := do
  match ← peek with
  | .name s =>
    let _ ← advance
    let n ← nameOf s
    use n true
    return n
  | _ => refuse

def operand : Nat → Parser Expression
  | 0 => refuse
  | fuel + 1 => do
    let first ← sum fuel
    match isPlace first, ← peek with
    | true, .assign o =>
      let _ ← advance
      return .assign first o (← expression fuel)
    | _, _ => joined fuel first

def joined : Nat → Expression → Parser Expression
  | 0, _ => refuse
  | fuel + 1, left => do
    if beginsOperand (← peek) then joined fuel (.join left (← sum fuel)) else return left

def sum : Nat → Parser Expression
  | 0 => refuse
  | fuel + 1 => do sumOn fuel (← product fuel)

def sumOn : Nat → Expression → Parser Expression
  | 0, _ => refuse
  | fuel + 1, left => do
    match ← peek with
    | .operation .add =>
      let _ ← advance
      sumOn fuel (.arithmetic .add left (← product fuel))
    | .operation .subtract =>
      let _ ← advance
      sumOn fuel (.arithmetic .subtract left (← product fuel))
    | _ => return left

def product : Nat → Parser Expression
  | 0 => refuse
  | fuel + 1 => do productOn fuel (← signed fuel)

def productOn : Nat → Expression → Parser Expression
  | 0, _ => refuse
  | fuel + 1, left => do
    match ← peek with
    | .operation o =>
      if o = .multiply || o = .divide || o = .remainder then
        let _ ← advance
        productOn fuel (.arithmetic o left (← signed fuel))
      else return left
    | _ => return left

def signed : Nat → Parser Expression
  | 0 => refuse
  | fuel + 1 => do
    match ← peek with
    | .not =>
      let _ ← advance
      modify fun d => { d with mayBeTuple := false, mayBeKeys := false }
      return .negation (← signed fuel)
    | .operation .subtract =>
      let _ ← advance
      modify fun d => { d with mayBeTuple := false, mayBeKeys := false }
      return .minus (← signed fuel)
    | .operation .add =>
      let _ ← advance
      modify fun d => { d with mayBeTuple := false, mayBeKeys := false }
      return .plus (← signed fuel)
    | _ => piped fuel (← power fuel)

def piped : Nat → Expression → Parser Expression
  | 0, _ => refuse
  | fuel + 1, left => do
    match ← peek with
    | .pipe =>
      let _ ← advance
      if isWord "getline" (← peek) then
        let _ ← advance
        let target ← place? fuel
        piped fuel (.readCommand target left)
      else refuse
    | _ => return left

def power : Nat → Parser Expression
  | 0 => refuse
  | fuel + 1 => do
    let base ← stepped fuel
    match ← peek with
    | .operation .power =>
      let _ ← advance
      return .arithmetic .power base (← exponent fuel)
    | _ => return base

def exponent : Nat → Parser Expression
  | 0 => refuse
  | fuel + 1 => do
    match ← peek with
    | .not =>
      let _ ← advance
      return .negation (← exponent fuel)
    | .operation .subtract =>
      let _ ← advance
      return .minus (← exponent fuel)
    | .operation .add =>
      let _ ← advance
      return .plus (← exponent fuel)
    | _ => power fuel

def stepped : Nat → Parser Expression
  | 0 => refuse
  | fuel + 1 => do
    let e ← primary fuel
    if isPlace e then
      match ← peek with
      | .step isUp =>
        let _ ← advance
        return .step e (if isUp then 1 else -1) true
      | _ => return e
    else return e

def place? : Nat → Parser (Option Expression)
  | 0 => refuse
  | fuel + 1 => do
    match ← peek with
    | .name s => if ← isFunction s then return none else return some (← primary fuel)
    | .dollar | .field _ => return some (← primary fuel)
    | _ => return none

def fieldIndex : Nat → Parser Expression
  | 0 => refuse
  | fuel + 1 => do
    match ← peek with
    | .operation .subtract =>
      let _ ← advance
      return .minus (← fieldIndex fuel)
    | .operation .add =>
      let _ ← advance
      return .plus (← fieldIndex fuel)
    | .not =>
      let _ ← advance
      return .negation (← fieldIndex fuel)
    | _ => primary fuel

def primary : Nat → Parser Expression
  | 0 => refuse
  | fuel + 1 => do
    let mayBeTuple := (← get).mayBeTuple
    let mayBeKeys := (← get).mayBeKeys
    modify fun d => { d with mayBeTuple := false, mayBeKeys := false }
    match ← peek with
    | .number x _ =>
      let _ ← advance
      return .number x
    | .text s =>
      let _ ← advance
      return .text s
    | .regex s =>
      let _ ← advance
      compiled s
    | .field x =>
      let _ ← advance
      return .field (.number x)
    | .dollar =>
      let _ ← advance
      return .field (← fieldIndex fuel)
    | .step isUp =>
      let _ ← advance
      let target ← primary fuel
      if isPlace target then return .step target (if isUp then 1 else -1) false else refuse
    | .leftParenthesis =>
      let _ ← advance
      match mayBeTuple, ← peek with
      | true, .rightParenthesis =>
        let _ ← advance
        return .tuple []
      | _, _ =>
        let first ← expression fuel
        match mayBeKeys, ← peek with
        | true, .comma =>
          let rest ← listOn fuel
          rightParenthesis
          let w ← peek
          if isWord "in" w then
            let _ ← advance
            return .contains (first :: rest) (← arrayName)
          else if mayBeTuple && endsPrinted w then return .tuple (first :: rest)
          else refuse
        | _, _ =>
          rightParenthesis
          match first with
          | .field _ => return first
          | _ => return .group first
    | .name s =>
      let _ ← advance
      if ← isFunction s then callBehind fuel s else named fuel s
    | .call s =>
      let _ ← advance
      let d ← get
      if d.locals.contains s || d.names.contains s then named fuel s else callBehind fuel s
    | .builtin s =>
      let _ ← advance
      leftParenthesis
      let arguments ← listUpToParenthesis fuel
      let (least, most) := arity s
      if arguments.length < least || most < arguments.length then
        complain ("wrong number of arguments in call to " ++ s)
      return .builtin s arguments
    | .keyword s => keywordOperand fuel s
    | _ => refuse

def named : Nat → String → Parser Expression
  | 0, _ => refuse
  | fuel + 1, s => do
    let n ← nameOf s
    match ← peek with
    | .leftBracket =>
      use n true
      let _ ← advance
      let keys ← list fuel
      match ← peek with
      | .rightBracket =>
        let _ ← advance
        return .element n keys
      | _ => refuse
    | _ =>
      use n false
      return .variable n

def keywordOperand : Nat → String → Parser Expression
  | 0, _ => refuse
  | fuel + 1, s => do
    match s with
    | "length" =>
      let _ ← advance
      match ← peek with
      | .leftParenthesis =>
        let _ ← advance
        match ← peek with
        | .rightParenthesis =>
          let _ ← advance
          return .builtin "length" [.field (.number 0)]
        | _ =>
          let e ← expression fuel
          rightParenthesis
          match e with
          | .variable n =>
            forgetUse
            return .size n
          | e => return .builtin "length" [e]
      | _ => return .builtin "length" [.field (.number 0)]
    | "getline" =>
      let _ ← advance
      scan fun s => { s with isReading := true }
      let target ← place? fuel
      match ← peek with
      | .input =>
        let _ ← advance
        return .readFile target (← power fuel)
      | _ =>
        scan fun s => { s with isReading := false }
        return .readMain target
    | "split" =>
      let _ ← advance
      leftParenthesis
      let text ← expression fuel
      comma
      let target ← arrayName
      match ← peek with
      | .comma =>
        let _ ← advance
        let by_ ← expression fuel
        rightParenthesis
        return .split text target (some by_)
      | _ =>
        rightParenthesis
        return .split text target none
    | "match" =>
      let _ ← advance
      leftParenthesis
      let text ← expression fuel
      comma
      let pattern ← asPattern (← expression fuel)
      rightParenthesis
      return .builtin "match" [text, pattern]
    | "sub" | "gsub" =>
      let _ ← advance
      leftParenthesis
      let pattern ← asPattern (← expression fuel)
      comma
      let replacement ← expression fuel
      match ← peek with
      | .comma =>
        let _ ← advance
        match ← place? fuel with
        | some target =>
          if isPlace target then
            rightParenthesis
            return .replace (s == "gsub") pattern replacement target
          else refuse
        | none => refuse
      | _ =>
        rightParenthesis
        return .replace (s == "gsub") pattern replacement (.field (.number 0))
    | _ => refuse

def callBehind : Nat → String → Parser Expression
  | 0, _ => refuse
  | fuel + 1, s => do
    let callee ← functionOf s
    leftParenthesis
    let arguments ←
      match ← peek with
      | .rightParenthesis => pure []
      | _ => passed fuel
    rightParenthesis
    modify fun d =>
      let passings := arguments.zipIdx.map fun (e, position) =>
        let name := match e with
          | .variable n => some n
          | _ => none
        Event.pass ⟨d.function, name, callee, position, d.scan.lastLine⟩
      { d with events := passings ++ d.events }
    match (← get).functions[callee]?.bind (·.2) with
    | some f =>
      if f.parameters < arguments.length then complain ("too many arguments in call to " ++ s)
    | none =>
      modify fun d =>
        { d with promises := ⟨callee, arguments.length, d.scan.lastLine⟩ :: d.promises }
    return .call callee arguments

def passed : Nat → Parser (List Expression)
  | 0 => refuse
  | fuel + 1 => do
    let e ← expression fuel
    match e with
    | .variable _ => forgetUse
    | _ => pure ()
    match ← peek with
    | .comma =>
      let _ ← advance
      return e :: (← passed fuel)
    | _ => return [e]

def list : Nat → Parser (List Expression)
  | 0 => refuse
  | fuel + 1 => do
    let e ← expression fuel
    return e :: (← listOn fuel)

def listOn : Nat → Parser (List Expression)
  | 0 => refuse
  | fuel + 1 => do
    match ← peek with
    | .comma =>
      let _ ← advance
      list fuel
    | _ => return []

def listUpToParenthesis : Nat → Parser (List Expression)
  | 0 => refuse
  | fuel + 1 => do
    match ← peek with
    | .rightParenthesis =>
      let _ ← advance
      return []
    | _ =>
      let es ← list fuel
      rightParenthesis
      return es

end

def printed (fuel : Nat) : Parser (List Expression × Option (Direction × Expression)) := do
  scan fun s => { s with isPrinting := true }
  let w ← peek
  let isStart := match w with
    | .leftParenthesis => true
    | _ => false
  let es ←
    if endsPrinted w then pure []
    else
      modify fun d => { d with mayBeTuple := isStart }
      let first ← expression fuel
      match first with
      | .tuple es => if endsPrinted (← peek) then pure es else refuse
      | first =>
        let rest ← listOn fuel
        pure (first :: rest)
  let direction ←
    match ← peek with
    | .redirect d =>
      let _ ← advance
      pure (some (d, ← expression fuel))
    | _ => pure none
  scan fun s => { s with isPrinting := false }
  separator
  return (es, direction)

def inLoop {α : Type} (p : Parser α) : Parser α := do
  modify fun d => { d with loops := d.loops + 1 }
  let a ← p
  modify fun d => { d with loops := d.loops - 1 }
  return a

def optional (fuel : Nat) : Parser (Option Expression) := do
  if isSeparator (← peek) then return none else return some (← expression fuel)

mutual

def statement : Nat → Parser Statement
  | 0 => refuse
  | fuel + 1 => do
    match ← peek with
    | .leftBrace => return .block (← block fuel)
    | .newline | .semicolon | .impliedSemicolon =>
      let _ ← advance
      return .block []
    | .keyword s => keywordStatement fuel s
    | _ =>
      let e ← expression (20 * fuel)
      separator
      return .evaluate e

def keywordStatement : Nat → String → Parser Statement
  | 0, _ => refuse
  | fuel + 1, s => do
    let condition : Parser Expression := do
      leftParenthesis
      let c ← expression (20 * fuel)
      rightParenthesis
      return c
    match s with
    | "print" =>
      let _ ← advance
      let (es, direction) ← printed (20 * fuel)
      return .print es direction
    | "printf" =>
      let _ ← advance
      let (es, direction) ← printed (20 * fuel)
      if es.isEmpty then complain "no arguments in call to printf"
      return .printf es direction
    | "if" =>
      let _ ← advance
      let c ← condition
      passLines
      let a ← statement fuel
      if isWord "else" (← peek) then
        let _ ← advance
        passLines
        return .choice c a (some (← statement fuel))
      else return .choice c a none
    | "while" =>
      let _ ← advance
      let c ← condition
      passLines
      return .loop c (← inLoop (statement fuel))
    | "do" =>
      let _ ← advance
      passLines
      let body ← inLoop (statement fuel)
      if isWord "while" (← peek) then
        let _ ← advance
        let c ← condition
        separator
        return .loopOnce body c
      else refuse
    | "for" =>
      let _ ← advance
      leftParenthesis
      forBehind fuel
    | "break" =>
      let _ ← advance
      if (← get).loops = 0 then complain "break statement outside of loop"
      separator
      return .leave
    | "continue" =>
      let _ ← advance
      if (← get).loops = 0 then complain "continue statement outside of loop"
      separator
      return .goOn
    | "next" | "nextfile" =>
      let _ ← advance
      if !(← get).hasRecord then complain ("improper use of " ++ s)
      separator
      return if s == "next" then .next else .nextFile
    | "exit" =>
      let _ ← advance
      let e ← optional (20 * fuel)
      separator
      return .exit e
    | "return" =>
      let _ ← advance
      if (← get).function.isNone then complain "return outside function body"
      let e ← optional (20 * fuel)
      separator
      return .give e
    | "delete" =>
      let _ ← advance
      let n ← arrayName
      match ← peek with
      | .leftBracket =>
        let _ ← advance
        let keys ← list (20 * fuel)
        match ← peek with
        | .rightBracket => let _ ← advance
        | _ => refuse
        separator
        return .delete n keys
      | _ =>
        separator
        return .clear n
    | _ =>
      let e ← expression (20 * fuel)
      separator
      return .evaluate e

def forBehind : Nat → Parser Statement
  | 0 => refuse
  | fuel + 1 => do
    let semicolon : Parser Unit := do
      match ← peek with
      | .semicolon => let _ ← advance
      | _ => refuse
    let start ←
      match ← peek with
      | .semicolon => pure none
      | _ => pure (some (← expression (20 * fuel)))
    match start, ← peek with
    | some (.contains [.variable n] array), .rightParenthesis =>
      let _ ← advance
      passLines
      return .each (.variable n) array (← inLoop (statement fuel))
    | _, _ =>
      semicolon
      let c ←
        match ← peek with
        | .semicolon => pure none
        | _ => pure (some (← expression (20 * fuel)))
      semicolon
      let next ←
        match ← peek with
        | .rightParenthesis => pure none
        | _ => pure (some (← expression (20 * fuel)))
      rightParenthesis
      passLines
      return .count start c next (← inLoop (statement fuel))

def block : Nat → Parser (List Statement)
  | 0 => refuse
  | fuel + 1 => do
    match ← peek with
    | .leftBrace =>
      let _ ← advance
      statements fuel
    | _ => refuse

def statements : Nat → Parser (List Statement)
  | 0 => refuse
  | fuel + 1 => do
    match ← peek with
    | .rightBrace =>
      let _ ← advance
      return []
    | _ =>
      let s ← statement fuel
      return s :: (← statements fuel)

end

def parameters (own : String) : Nat → List String → Parser (List String)
  | 0, _ => refuse
  | fuel + 1, before => do
    match ← peek with
    | .name s =>
      if s == own then
        complain "function parameter cannot be the function"
        refuse
      let _ ← advance
      if before.contains s then complain (s ++ " is duplicated in argument list")
      match ← peek with
      | .comma =>
        let _ ← advance
        parameters own fuel (before ++ [s])
      | _ => return before ++ [s]
    | _ => refuse

def kindOf? (i : Nat) : Parser (Option String) := do
  let uses := (← get).events.filterMap fun e =>
    match e with
    | .use u => if u.name = .overall i then some u.isArray else none
    | .pass _ => none
  let known := if i < knownNames.length then some false else none
  return (uses.getLast?.or known).map fun isArray => if isArray then "array " else "variable "

def function (fuel : Nat) : Parser Unit := do
  let _ ← advance
  let name ←
    match ← peek with
    | .name s | .call s => pure s
    | _ => refuse
  let _ ← advance
  match (← get).names.idxOf? name with
  | some i =>
    match ← kindOf? i with
    | some kind => complain ("illegal reference to " ++ kind ++ name)
    | none => pure ()
  | none => pure ()
  let index ← functionOf name
  if ((← get).functions[index]?.bind (·.2)).isSome then complain ("redefinition of " ++ name)
  leftParenthesis
  let names ←
    match ← peek with
    | .rightParenthesis => pure []
    | _ => parameters name fuel []
  rightParenthesis
  passLines
  let known : Function := ⟨name, names.length, [], []⟩
  modify fun d =>
    { d with
      function := some index
      locals := names
      functions := d.functions.modify index fun (s, _) => (s, some known) }
  let body ← block fuel
  modify fun d =>
    { d with
      function := none
      locals := []
      functions := d.functions.modify index fun (s, _) => (s, some { known with body }) }

def body (fuel : Nat) : Parser (Option (List Statement)) := do
  match ← peek with
  | .leftBrace => return some (← block fuel)
  | _ =>
    separator
    return none

def rule (fuel : Nat) : Parser Rule := do
  let w ← peek
  if isWord "BEGIN" w || isWord "END" w then
    let _ ← advance
    let pattern := if isWord "END" w then Pattern.atEnd else .atStart
    return ⟨pattern, some (← block fuel)⟩
  else
    modify fun d => { d with hasRecord := true }
    let r ←
      match w with
      | .leftBrace => pure ⟨.always, some (← block fuel)⟩
      | _ => do
        let first ← expression (20 * fuel)
        match ← peek with
        | .comma =>
          let _ ← advance
          let last ← expression (20 * fuel)
          let n := (← get).ranges
          modify fun d => { d with ranges := n + 1 }
          pure ⟨.range first last n, ← body fuel⟩
        | _ => pure ⟨.fits first, ← body fuel⟩
    modify fun d => { d with hasRecord := false }
    return r

def rules : Nat → Parser (List Rule)
  | 0 => refuse
  | fuel + 1 => do
    match ← peek with
    | .theEnd => return []
    | .keyword "function" =>
      function fuel
      rules fuel
    | _ =>
      let r ← rule fuel
      return r :: (← rules fuel)

end Parser

/-- What is known of the names: whether they are arrays, in each function and outside. -/
structure Kinds where
  overall : Array (Option Bool)
  locals : Array (Array (Option Bool))

namespace Kinds

def get (k : Kinds) (function : Option Nat) : Name → Option Bool
  | .overall i => k.overall.getD i none
  | .local i => function.bind fun f => (k.locals.getD f #[]).getD i none

def set (k : Kinds) (function : Option Nat) (n : Name) (isArray : Bool) : Kinds :=
  match n, function with
  | .overall i, _ => { k with overall := k.overall.setIfInBounds i (some isArray) }
  | .local i, some f =>
    { k with locals := k.locals.modify f fun l => l.setIfInBounds i (some isArray) }
  | .local _, none => k

def use (k : Kinds) (u : Use) : Kinds × Option String :=
  match k.get u.function u.name with
  | none => (k.set u.function u.name u.isArray, none)
  | some isArray =>
    if isArray == u.isArray then (k, none)
    else
      let kind := if isArray then "array " else "variable "
      let place :=
        match u.name with
        | .overall _ => ""
        | .local _ => "local "
      (k, some ("illegal reference to " ++ place ++ kind ++ u.shown))

/-- What is known of the two sides of a call: of what is handed over, and of the parameter. -/
def sides (k : Kinds) (p : Passing) : Option Bool × Option Bool :=
  (p.name.elim (some false) (k.get p.function), k.get (some p.callee) (.local p.position))

def pass (k : Kinds) (p : Passing) : Kinds :=
  match p.name, k.sides p with
  | some n, (none, some isArray) => k.set p.function n isArray
  | _, (some isArray, none) => k.set (some p.callee) (.local p.position) isArray
  | _, _ => k

def passAll (ps : List Passing) : Nat → Kinds → Kinds
  | 0, k => k
  | fuel + 1, k => passAll ps fuel (ps.foldl pass k)

end Kinds

def passingFault? (k : Kinds) (functions : Array (String × Option Function)) (p : Passing) :
    Option String :=
  match k.sides p with
  | (some a, some b) =>
    if a == b then none
    else
      let kind (isArray : Bool) : String := if isArray then "array" else "variable"
      let callee := (functions[p.callee]?.map (·.1)).getD ""
      some ("type error in arg(" ++ toString (p.position + 1) ++ ") in call to " ++ callee ++
        " (actual local " ++ kind a ++ " vs local " ++ kind b ++ ")")
  | _ => none

namespace Program

def knownKinds (names : Array String) : Array (Option Bool) :=
  names.mapIdx fun i name =>
    if name == "ENVIRON" || name == "ARGV" then some true
    else if i < knownNames.length then some false
    else none

def settled (d : Draft) : Kinds × Scan :=
  let parameterCounts := d.functions.map fun (_, f) => f.elim 0 (·.parameters)
  let start : Kinds :=
    ⟨knownKinds d.names, parameterCounts.map fun n => Array.replicate n none⟩
  d.events.reverse.foldl
    (fun (k, s) e =>
      match e with
      | .use u =>
        let (k, fault) := k.use u
        (k, fault.elim s (Scan.complainAt s u.line))
      | .pass p =>
        (k.pass p, (passingFault? k d.functions p).elim s (Scan.complainAt s p.line)))
    (start, d.scan)

def promiseFault (functions : Array (String × Option Function)) (s : Scan) (p : Promise) : Scan :=
  match functions[p.callee]? with
  | some (name, none) => s.complain ("function " ++ name ++ " never defined")
  | some (name, some f) =>
    if f.parameters < p.arguments then
      s.complainAt p.line ("too many arguments in call to " ++ name)
    else s
  | none => s

def ofDraft (rules : List Rule) (d : Draft) : Except (List String) Program :=
  let (kinds, scan) := settled d
  let passings := d.events.filterMap fun e =>
    match e with
    | .use _ => none
    | .pass p => some p
  let kinds := Kinds.passAll passings (passings.length + 1) kinds
  let scan :=
    if scan.complaints.isEmpty then d.promises.foldl (promiseFault d.functions) scan else scan
  let scan :=
    if scan.complaints.isEmpty then
      passings.foldl
        (fun s p => (passingFault? kinds d.functions p).elim s (Scan.complainAt s p.line)) scan
    else scan
  if !scan.complaints.isEmpty then .error scan.complaints.reverse
  else
    let functions := d.functions.mapIdx fun i (_, f) =>
      { f.getD default with
        arrays := (kinds.locals.getD i #[]).toList.map (·.getD false) }
    .ok ⟨rules, functions, d.names, kinds.overall.map (·.getD false), d.ranges⟩

def readFrom : List (Option String × String) → List Rule → Draft → Except (List String) Program
  | [], rules, d => ofDraft rules d
  | (source, text) :: rest, rules, d =>
    let text := if source.isNone then text ++ "\n" else text
    let scan : Scan :=
      { d.scan with rest := text.toList, line := 1, last := .newline, lastLine := 1, source }
    let (r, d) :=
      (Parser.rules (text.length + 100)).run { d with scan := scan.passLines, ahead := none }
    match r with
    | .ok more => readFrom rest (rules ++ more) d
    | .error () => .error d.scan.complaints.reverse

def read (texts : List (Option String × String)) : Except (List String) Program :=
  let scan : Scan :=
    { rest := []
      line := 1
      last := .newline
      lastLine := 1
      braces := 0
      parentheses := 0
      isPrinting := false
      isReading := false
      source := none
      complaints := []
      isOver := false }
  readFrom texts []
    { scan
      ahead := none
      names := knownNames.toArray
      functions := #[]
      function := none
      locals := []
      events := []
      promises := []
      loops := 0
      hasRecord := false
      mayBeTuple := false
      mayBeKeys := false
      ranges := 0 }

end Program

end ServerKeeper.Tool.Records
