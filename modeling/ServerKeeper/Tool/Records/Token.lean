import ServerKeeper.Decimal.Scanned
import ServerKeeper.Tool.Records.Program

namespace ServerKeeper.Tool.Records

inductive Word
  | theEnd
  | newline
  | semicolon
  | impliedSemicolon
  | leftBrace
  | rightBrace
  | leftParenthesis
  | rightParenthesis
  | leftBracket
  | rightBracket
  | comma
  | question
  | colon
  | or
  | and
  | not
  | assign (operation : Option Operation)
  | relation (r : Relation)
  | fits (isNegated : Bool)
  | operation (o : Operation)
  | step (isUp : Bool)
  | dollar
  | field (index : Float)
  | number (x : Float) (shown : String)
  | text (s : String)
  | regex (s : String)
  | name (s : String)
  | call (s : String)
  | keyword (s : String)
  | builtin (s : String)
  | redirect (d : Direction)
  | input
  | pipe
  | unexpected (c : Char)
  | badNumber (shown : String)

namespace Word

def operationText : Operation → String
  | .add => "+"
  | .subtract => "-"
  | .multiply => "*"
  | .divide => "/"
  | .remainder => "%"
  | .power => "^"

def relationText : Relation → String
  | .less => "<"
  | .notGreater => "<="
  | .equal => "=="
  | .notEqual => "!="
  | .notLess => ">="
  | .greater => ">"

def shown : Word → String
  | theEnd => "end of file"
  | newline => "end of line"
  | semicolon => ";"
  | impliedSemicolon | rightBrace => "\x7d"
  | leftBrace => "\x7b"
  | leftParenthesis => "("
  | rightParenthesis => ")"
  | leftBracket => "["
  | rightBracket => "]"
  | comma => ","
  | question => "?"
  | colon => ":"
  | or => "||"
  | and => "&&"
  | not => "!"
  | assign none => "="
  | assign (some o) => operationText o ++ "="
  | relation r => relationText r
  | fits isNegated => if isNegated then "!~" else "~"
  | operation o => operationText o
  | step isUp => if isUp then "++" else "--"
  | dollar | field _ => "$"
  | number _ s | text s | name s | call s | keyword s | builtin s => s
  | regex s => "/" ++ s ++ "/"
  | redirect .toFile => ">"
  | redirect .toEnd => ">>"
  | redirect .toCommand | pipe => "|"
  | input => "<"
  | unexpected c => c.toString
  | badNumber s => s

def isOperand : Word → Bool
  | number .. | text _ | rightParenthesis | name _ | regex _ | rightBracket | field _ | step _ =>
    true
  | keyword s => s == "getline"
  | builtin _ => false
  | _ => false

end Word

structure Scan where
  rest : List Char
  line : Nat
  last : Word
  lastLine : Nat
  braces : Nat
  parentheses : Nat
  isPrinting : Bool
  isReading : Bool
  source : Option String
  complaints : List String
  isOver : Bool

namespace Scan

def keywords : List String :=
  ["BEGIN", "END", "function", "if", "else", "while", "for", "do", "in", "break", "continue",
   "next", "nextfile", "exit", "return", "delete", "print", "printf", "getline", "split", "match",
   "sub", "gsub", "length"]

def builtins : List String :=
  ["index", "substr", "sprintf", "sin", "cos", "atan2", "exp", "log", "int", "sqrt", "rand",
   "srand", "close", "system", "toupper", "tolower", "fflush", "strftime", "mktime", "systime"]

def isBlank (c : Char) : Bool := c = ' ' || c = '\t' || '\x0b' ≤ c && c ≤ '\r'

def isLetter (c : Char) : Bool := c.isAlpha || c = '_'

def passedLines : Nat → List Char → Nat → List Char × Nat
  | 0, cs, n => (cs, n)
  | fuel + 1, cs, n =>
    match cs with
    | '\n' :: rest => passedLines fuel rest (n + 1)
    | '#' :: rest => passedLines fuel (rest.dropWhile (· ≠ '\n')) n
    | '\\' :: rest =>
      match rest.dropWhile isBlank with
      | '\n' :: rest => passedLines fuel rest (n + 1)
      | _ => (cs, n)
    | c :: rest => if isBlank c then passedLines fuel rest n else (cs, n)
    | [] => ([], n)

def passLines (s : Scan) : Scan :=
  let (rest, n) := passedLines (s.rest.length + 1) s.rest 0
  { s with rest, line := s.line + n }

def complainAt (s : Scan) (line : Nat) (text : String) : Scan :=
  let place := s.source.elim "" (· ++ ": ")
  { s with complaints := (place ++ "line " ++ toString line ++ ": " ++ text) :: s.complaints }

def complain (s : Scan) (text : String) : Scan := s.complainAt s.line text

def isOctal (c : Char) : Bool := '0' ≤ c && c ≤ '7'

def escape? : List Char → Option (Char × List Char)
  | '"' :: rest => some ('"', rest)
  | '\\' :: rest => some ('\\', rest)
  | 'a' :: rest => some ('\x07', rest)
  | 'b' :: rest => some ('\x08', rest)
  | 'f' :: rest => some ('\x0c', rest)
  | 'n' :: rest => some ('\n', rest)
  | 'r' :: rest => some ('\r', rest)
  | 't' :: rest => some ('\t', rest)
  | 'v' :: rest => some ('\x0b', rest)
  | 'x' :: rest =>
    let ds := (rest.take 2).takeWhile Decimal.Scanned.isHex
    if ds.isEmpty then none
    else
      some (Char.ofNat (Decimal.Scanned.hexNumber ds), rest.drop ds.length)
  | cs =>
    let ds := (cs.take 3).takeWhile isOctal
    if ds.isEmpty then none
    else
      let n := ds.foldl (fun n c => 8 * n + (c.toNat - 48)) 0
      some (Char.ofNat (n % 256), cs.drop ds.length)

def unescaped : Nat → List Char → List Char
  | 0, cs => cs
  | _, [] => []
  | fuel + 1, '\\' :: rest =>
    match escape? rest with
    | some (c, rest) => c :: unescaped fuel rest
    | none =>
      match rest with
      | c :: rest => '\\' :: c :: unescaped fuel rest
      | [] => ['\\']
  | fuel + 1, c :: rest => c :: unescaped fuel rest

def plain (text : String) : String := String.ofList (unescaped (text.length + 1) text.toList)

/-- What stands up to a quote, the last character first, and what follows. Nothing if the line ends
first. Counts the lines that go on. -/
def quoted : Nat → List Char → List Char → Nat → Option (List Char × List Char × Nat)
  | 0, _, _, _ | _, [], _, _ => none
  | fuel + 1, c :: rest, acc, n =>
    if c = '"' then some (acc, rest, n)
    else if c = '\n' then none
    else if c = '\\' then
      match rest with
      | '\n' :: rest => quoted fuel rest acc (n + 1)
      | d :: rest => quoted fuel rest (d :: '\\' :: acc) n
      | [] => none
    else quoted fuel rest (c :: acc) n

/-- What stands up to a slash outside of brackets, the last character first, and what follows. -/
def slashed : Nat → List Char → List Char → Option Nat → Option (List Char × List Char)
  | 0, _, _, _ | _, [], _, _ => none
  | fuel + 1, c :: rest, acc, inside =>
    if c = '\n' then none
    else if c = '\\' then
      match rest with
      | '/' :: rest => slashed fuel rest ('/' :: acc) (inside.map (· + 1))
      | '\n' :: rest => slashed fuel rest acc inside
      | d :: rest => slashed fuel rest (d :: '\\' :: acc) (inside.map (· + 1))
      | [] => none
    else
      match inside with
      | none =>
        if c = '/' then some (acc, rest)
        else if c = '[' then slashed fuel rest (c :: acc) (some 0)
        else slashed fuel rest (c :: acc) none
      | some n =>
        if c = ']' && n > 0 then slashed fuel rest (c :: acc) none
        else if c = '^' && n = 0 && acc.head? = some '[' then
          slashed fuel rest (c :: acc) (some 0)
        else slashed fuel rest (c :: acc) (some (n + 1))

def number (cs : List Char) : Word × List Char :=
  let whole := cs.takeWhile Char.isDigit
  let rest := cs.drop whole.length
  let (places, rest) :=
    match rest with
    | '.' :: more =>
      let ds := more.takeWhile Char.isDigit
      ('.' :: ds, more.drop ds.length)
    | rest => ([], rest)
  let mantissa := whole ++ places
  if mantissa = ['.'] then (.unexpected '.', rest)
  else
    let value (cs : List Char) : Float := (Decimal.Scanned.number? cs).elim 0 (·.1)
    let plain := (Word.number (value mantissa) (String.ofList mantissa), rest)
    match rest with
    | e :: more =>
      if e = 'e' || e = 'E' then
        let (sign, digits) :=
          match more with
          | c :: digits => if c = '-' || c = '+' then ([c], digits) else ([], more)
          | [] => ([], [])
        let ds := digits.takeWhile Char.isDigit
        let all := mantissa ++ e :: sign ++ ds
        if ds.isEmpty then (.badNumber (String.ofList all), digits)
        else (.number (value all) (String.ofList all), digits.drop ds.length)
      else plain
    | [] => plain

def identifier (name : String) (rest : List Char) : Word :=
  if keywords.contains name then .keyword name
  else if builtins.contains name then .builtin name
  else if rest.head? = some '(' then .call name
  else .name name

def rangeFault? (x : Float) (shown : String) : Option String :=
  if x.isInf then some (shown ++ " : decimal overflow")
  else if x == 0 && shown.any (fun c => '1' ≤ c && c ≤ '9') &&
      ((shown.toList.takeWhile fun c => c ≠ 'e' && c ≠ 'E').any fun c => '1' ≤ c && c ≤ '9') then
    some (shown ++ " : decimal underflow")
  else none

def runaway (s : Scan) (what : String) (text : List Char) : Scan × Word :=
  let shown := String.ofList ((text.takeWhile (· ≠ '\n')).take 10)
  ({ s.complain ("runaway " ++ what ++ shown ++ " ...") with isOver := true, rest := [] }, .theEnd)

def read : Nat → Scan → Scan × Word
  | 0, s => (s, .theEnd)
  | fuel + 1, s =>
    match s.rest with
    | [] => (s, .theEnd)
    | c :: rest =>
      let go (n : Nat) (w : Word) : Scan × Word := ({ s with rest := s.rest.drop n }, w)
      let here := { s with rest }
      let twoWay (second : Char) (long short : Word) : Scan × Word :=
        if rest.head? = some second then go 2 long else go 1 short
      if isBlank c then read fuel here
      else if isLetter c then
        let name := s.rest.takeWhile fun c => isLetter c || c.isDigit
        let rest := s.rest.drop name.length
        ({ s with rest }, identifier (String.ofList name) rest)
      else if c.isDigit || c = '.' then
        let (w, rest) := number s.rest
        let s := { s with rest }
        match w with
        | .number x shown => ((rangeFault? x shown).elim s s.complain, w)
        | w => (s, w)
      else
        match c with
        | '\n' =>
          let s' := { here with line := s.line + 1 }
          (s'.passLines, .newline)
        | '#' => read fuel { s with rest := rest.dropWhile (· ≠ '\n') }
        | '\\' =>
          match rest.dropWhile isBlank with
          | '\n' :: rest => read fuel { s with rest, line := s.line + 1 }
          | rest => ({ s with rest }, .unexpected '\\')
        | ';' => (here.passLines, .semicolon)
        | '\x7b' => ({ here.passLines with braces := s.braces + 1 }, .leftBrace)
        | '\x7d' =>
          match s.last with
          | .newline | .semicolon | .impliedSemicolon | .rightBrace =>
            if s.braces = 0 then read fuel (here.complain "extra '\x7d'")
            else
              let rest :=
                if s.braces > 1 then rest
                else
                  match rest.dropWhile isBlank with
                  | ';' :: more => more
                  | _ => rest
              ({ { s with rest, braces := s.braces - 1 }.passLines with braces := s.braces - 1 },
                .rightBrace)
          | _ =>
            if s.braces = 0 then read fuel (here.complain "extra '\x7d'")
            else (s, .impliedSemicolon)
        | '(' => ({ here with parentheses := s.parentheses + 1 }, .leftParenthesis)
        | ')' =>
          if s.parentheses = 0 then read fuel (here.complain "extra ')'")
          else ({ here with parentheses := s.parentheses - 1 }, .rightParenthesis)
        | '[' => go 1 .leftBracket
        | ']' => go 1 .rightBracket
        | ',' => (here.passLines, .comma)
        | '?' => go 1 .question
        | ':' => go 1 .colon
        | '~' => go 1 (.fits false)
        | '=' => twoWay '=' (.relation .equal) (.assign none)
        | '!' =>
          match rest with
          | '~' :: _ => go 2 (.fits true)
          | '=' :: _ => go 2 (.relation .notEqual)
          | _ => go 1 .not
        | '+' =>
          match rest with
          | '+' :: _ => go 2 (.step true)
          | '=' :: _ => go 2 (.assign (some .add))
          | _ => go 1 (.operation .add)
        | '-' =>
          match rest with
          | '-' :: _ => go 2 (.step false)
          | '=' :: _ => go 2 (.assign (some .subtract))
          | _ => go 1 (.operation .subtract)
        | '*' => twoWay '=' (.assign (some .multiply)) (.operation .multiply)
        | '%' => twoWay '=' (.assign (some .remainder)) (.operation .remainder)
        | '^' => twoWay '=' (.assign (some .power)) (.operation .power)
        | '/' =>
          if s.last.isOperand then twoWay '=' (.assign (some .divide)) (.operation .divide)
          else
            match slashed (rest.length + 1) rest [] none with
            | some (text, rest) => ({ s with rest }, .regex (String.ofList text.reverse))
            | none => runaway s "regular expression /" rest
        | '<' =>
          if rest.head? = some '=' then go 2 (.relation .notGreater)
          else if s.isReading then ({ here with isReading := false }, .input)
          else go 1 (.relation .less)
        | '>' =>
          if s.isPrinting && s.parentheses = 0 then
            let s := { s with isPrinting := false }
            match rest with
            | '>' :: rest => ({ s with rest }, .redirect .toEnd)
            | rest => ({ s with rest }, .redirect .toFile)
          else twoWay '=' (.relation .notLess) (.relation .greater)
        | '|' =>
          match rest with
          | '|' :: rest => ({ s with rest }.passLines, .or)
          | rest =>
            if s.isPrinting && s.parentheses = 0 then
              ({ s with rest, isPrinting := false }, .redirect .toCommand)
            else go 1 .pipe
        | '&' =>
          match rest with
          | '&' :: rest => ({ s with rest }.passLines, .and)
          | _ => go 1 (.unexpected '&')
        | '$' =>
          match rest.dropWhile isBlank with
          | d :: more =>
            if d.isDigit || d = '.' then
              match number (d :: more) with
              | (.number x _, rest) => ({ s with rest }, .field x)
              | (w, rest) => ({ s with rest }, w)
            else go 1 .dollar
          | [] => go 1 .dollar
        | '"' =>
          match quoted (rest.length + 1) rest [] 0 with
          | some (text, rest, n) =>
            ({ s with rest, line := s.line + n }, .text (plain (String.ofList text.reverse)))
          | none => runaway s "string constant \"" rest
        | c => go 1 (.unexpected c)

def next (s : Scan) : Scan × Word :=
  let line := (passedBlanks s.rest).elim s.line fun n => s.line + n
  let (t, w) := read (s.rest.length + 2) s
  ({ t with last := w, lastLine := line }, w)
where
  /-- How many lines stand in front of the next word: those that a backslash continues. -/
  passedBlanks (cs : List Char) : Option Nat := some (go (cs.length + 1) cs 0)
  go : Nat → List Char → Nat → Nat
    | 0, _, n => n
    | fuel + 1, cs, n =>
      match cs with
      | '\\' :: rest =>
        match rest.dropWhile isBlank with
        | '\n' :: rest => go fuel rest (n + 1)
        | _ => n
      | c :: rest => if isBlank c then go fuel rest n else n
      | [] => n

end Scan

end ServerKeeper.Tool.Records
