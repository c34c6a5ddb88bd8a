import ServerKeeper.Regex.Reading
import ServerKeeper.Tool.Records.Token

namespace ServerKeeper.Tool.Records

open Regex (Compiled Dialect slice)

namespace Expressions

def dialect : Dialect :=
  { isExtended := true
    leading := .refused
    leadingInterval := .refused
    closesLoosely := true
    bracesLoosely := true
    escapesInBrackets := true
    knowsLetters := false
    needsOperands := true
    refusesBareClass := false
    repeatsOnce := false
    allowsEmptyRanges := false
    ignoresCase := false }

def isSpecial (c : Char) : Bool := "\\^$.[]|()*+?\x7b\x7d".contains c

def unescaped : Nat → List Char → List Char
  | 0, cs => cs
  | _, [] => []
  | fuel + 1, '\\' :: rest =>
    match rest with
    | [] => ['\\', '\\']
    | c :: more =>
      if isSpecial c || c = '/' || c = '"' then '\\' :: c :: unescaped fuel more
      else
        match Scan.escape? rest with
        | some (d, more) =>
          if isSpecial d then '\\' :: d :: unescaped fuel more else d :: unescaped fuel more
        | none => '\\' :: '\\' :: c :: unescaped fuel more
  | fuel + 1, c :: rest => c :: unescaped fuel rest

def compile (text : String) : Except String Compiled :=
  let cs := unescaped (text.length + 1) text.toList
  match Regex.read { dialect with needsOperands := !cs.isEmpty } false (String.ofList cs) with
  | .ok (c, _) => .ok c
  | .error fault =>
    let why :=
      match fault with
      | .missingOperand => "missing operand"
      | .unmatchedGroup => "missing ')'"
      | .unmatchedBracket | .badRangeEnd => "bad class -- [], [^] or ["
      | .badInterval | .unmatchedBrace => "bad interval expression"
      | .tooBig => "resource exhaustion -- regular expression too large"
      | _ => "syntax error ^* or ^+"
    .error ("regular expression compile failed (" ++ why ++ ")\n" ++ text)

end Expressions

inductive Separator
  /-- Blanks, as many as there are, and none at the ends; or empty lines between records. -/
  | blanks
  | nothing
  | one (c : Char)
  | fits (r : Compiled)

namespace Separator

def ofText (s : String) : Except String Separator :=
  match s.toList with
  | [] => .ok .nothing
  | [' '] => .ok .blanks
  | [c] => .ok (.one c)
  | _ => (Expressions.compile s).map .fits

def ofRecordText (s : String) : Except String Separator :=
  match s.toList with
  | [] => .ok .blanks
  | [c] => .ok (.one c)
  | _ => (Expressions.compile s).map .fits

def isBlank (c : Char) : Bool := c = ' ' || c = '\t' || c = '\n'

def partsBetween (r : Compiled) (text : Array Char) : Nat → Nat → Nat → Compiled.Marks → List String
  | 0, start, _, _ => [slice text start text.size]
  | fuel + 1, start, from_, marks =>
    if from_ ≥ text.size then [slice text start text.size]
    else
      match r.searchWith text from_ marks with
      | (none, _) => [slice text start text.size]
      | (some m, marks) =>
        if m.start ≥ text.size then [slice text start text.size]
        else if m.stop = m.start then partsBetween r text fuel start (m.start + 1) marks
        else slice text start m.start :: partsBetween r text fuel m.stop m.stop marks

/-- The parts of a text. Where lines separate too, an end of a line is a separator in any case. -/
def parts (s : Separator) (byLines : Bool) (text : String) : List String :=
  if text.isEmpty then []
  else
    let further (ps : List String) : List String :=
      if byLines then ps.flatMap (·.splitOn "\n") else ps
    match s with
    | .blanks => ((text.split isBlank).toList.map (·.toString)).filter (!·.isEmpty)
    | .nothing => text.toList.map (·.toString)
    | .one c => further (text.splitOn c.toString)
    | .fits r =>
      let cs := text.toList.toArray
      further (partsBetween r cs (cs.size + 2) 0 0 (r.fresh cs))

/-- The records of a text with what stands behind each, where lines that are empty separate them. -/
def paragraphs (text : String) : List (String × String) :=
  go (text.length + 1) (text.toList.dropWhile (· = '\n')) []
where
  go : Nat → List Char → List Char → List (String × String)
    | 0, _, _ => []
    | _, [], acc => if acc.isEmpty then [] else [(String.ofList acc.reverse, "")]
    | fuel + 1, '\n' :: '\n' :: rest, acc =>
      let more := rest.takeWhile (· = '\n')
      (String.ofList acc.reverse, "\n\n" ++ String.ofList more) ::
        go fuel (rest.drop more.length) []
    | fuel + 1, '\n' :: [], acc => go fuel [] acc
    | fuel + 1, c :: rest, acc => go fuel rest (c :: acc)

def records (s : Separator) (text : String) : List (String × String) :=
  match s with
  | .blanks | .nothing => paragraphs text
  | .one c =>
    let ps := text.splitOn c.toString
    let whole := ps.dropLast.map (·, c.toString)
    match ps.getLast? with
    | some last => if last.isEmpty then whole else whole ++ [(last, "")]
    | none => whole
  | .fits r =>
    let cs := text.toList.toArray
    go r cs (cs.size + 2) 0 0 (r.fresh cs)
where
  go (r : Compiled) (cs : Array Char) : Nat → Nat → Nat → Compiled.Marks → List (String × String)
    | 0, _, _, _ => []
    | fuel + 1, start, from_, marks =>
      let remainder := if start < cs.size then [(slice cs start cs.size, "")] else []
      if from_ ≥ cs.size then remainder
      else
        match r.searchWith cs from_ marks with
        | (none, _) => remainder
        | (some m, marks) =>
          if m.start ≥ cs.size then remainder
          else if m.stop = m.start then go r cs fuel start (m.start + 1) marks
          else (slice cs start m.start, slice cs m.start m.stop) :: go r cs fuel m.stop m.stop marks

end Separator

end ServerKeeper.Tool.Records
