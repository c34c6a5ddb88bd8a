import ServerKeeper.Shell.Token

namespace ServerKeeper.Shell

open Reading

/-- How far a list of commands goes: to the end of a line; or over lines, to where a word or a
bracket closes it, with or without a command in it. -/
inductive Extent
  | line
  | nonempty
  | any
  deriving DecidableEq

structure Nested where
  list : Extent → Reading Command
  command : Reading Command

def specialNames : List String :=
  [".", ":", "break", "continue", "eval", "exec", "exit", "export", "readonly", "return", "set",
    "shift", "times", "trap", "unset"]

def allParameters : Word := [.parameter "@" .plain false [] true]

def assignment? (w : Word) : Option (String × Word) :=
  match w with
  | .text s false :: parts =>
    let name := String.ofList (s.toList.takeWhile isNameChar)
    let rest := s.toList.drop name.length
    match rest with
    | '=' :: value =>
      if isName name then
        let start : Word := if value.isEmpty then [] else [.text (String.ofList value) false]
        some (name, start ++ parts)
      else none
    | _ => none
  | _ => none

namespace Nested

variable (nested : Nested)

/-- The commands of a substitution. Behind a parenthesis the documents of the commands have to have
been read; the text between backquotes may hold more than is read. -/
def commands (nested : Nested) : Nat → Bool → Reading Command
  | 0, _ => return .nothing
  | fuel + 1, inParentheses => do
    let outer := (← get).announced
    modify fun r => { r with announced := [] }
    let c ← nested.list .any
    if inParentheses then
      let t ← Shell.token (commands nested fuel) .plain
      if !t.isSymbol ")" then
        fail (t.shown ++ " unexpected (expecting \")\")")
    modify fun r => { r with announced := outer }
    return c

def token (o : Outlook) : Reading Token := Shell.token (nested.commands maxReading) o

def unexpected {α : Type} (t : Token) (expected : Option String) : Reading α :=
  fail (t.shown ++ " unexpected" ++ expected.elim "" fun e => " (expecting " ++ e ++ ")")

def expect (o : Outlook) (test : Token → Bool) (shown : String) : Reading Unit := do
  let t ← nested.token o
  if !test t then unexpected t (some shown)

def expectReserved (o : Outlook) (text : String) : Reading Unit :=
  nested.expect o (Token.isReserved text) ("\"" ++ text ++ "\"")

def redirect (a : Arrow) : Reading Redirect := do
  let isDocument := a.symbol.startsWith "<<"
  match ← nested.token (if isDocument then .delimiter else .plain) with
  | .word w isQuoted =>
    match a.symbol with
    | "<" => return .file a.fd .read w
    | ">" => return .file a.fd .write w
    | ">|" => return .file a.fd .overwrite w
    | ">>" => return .file a.fd .append w
    | "<>" => return .file a.fd .both w
    | "<&" | ">&" => return .copy a.fd w
    | symbol =>
      let number := (← get).documents.size
      let announced : Announced := ⟨number, Word.plainText w, isQuoted, symbol == "<<-"⟩
      modify fun r => { r with
        documents := r.documents.push []
        announced := r.announced ++ [announced] }
      return .document a.fd number
  | t => unexpected t none

structure Draft where
  assignments : List (String × Word)
  words : List Word
  redirects : List Redirect

def definition (w : Word) : Reading Command := do
  nested.expect .plain (Token.isSymbol ")") "\")\""
  match Part.bareText? w with
  | some name =>
    if !isName name || specialNames.contains name then fail "Bad function name"
    else
      let line := (← get).line
      let t ← nested.token .onward
      hold t
      return .define line name (← nested.command)
  | none => fail "Bad function name"

def simpleFrom (line : Nat) : Nat → Draft → Reading Command
  | 0, _ => return .nothing
  | fuel + 1, d => do
    let t ← nested.token (if d.words.isEmpty then .name else .plain)
    match t with
    | .word w _ =>
      match d.words, assignment? w with
      | [], some a => simpleFrom line fuel { d with assignments := a :: d.assignments }
      | _, _ => simpleFrom line fuel { d with words := w :: d.words }
    | .arrow a =>
      let r ← nested.redirect a
      simpleFrom line fuel { d with redirects := r :: d.redirects }
    | t =>
      match t.isSymbol "(", d with
      | true, ⟨[], [w], []⟩ => nested.definition w
      | _, _ =>
        hold t
        return .simple line d.assignments.reverse d.words.reverse d.redirects.reverse

def redirects : Nat → List Redirect → Reading (List Redirect)
  | 0, rs => return rs.reverse
  | fuel + 1, rs => do
    match ← nested.token .start with
    | .arrow a => redirects fuel ((← nested.redirect a) :: rs)
    | t =>
      hold t
      return rs.reverse

def withRedirects (line : Nat) (c : Command) : Reading Command := do
  let rs ← nested.redirects maxReading []
  match rs, c with
  | [], c => return c
  | rs, .subshell line body _ => return .subshell line body rs
  | rs, c => return .redirected line c rs

def conditionalFrom : Nat → Reading Command
  | 0 => return .nothing
  | fuel + 1 => do
    let test ← nested.list .nonempty
    nested.expectReserved .plain "then"
    let yes ← nested.list .nonempty
    let t ← nested.token .plain
    if t.isReserved "elif" then return .conditional test yes (← conditionalFrom fuel)
    else if t.isReserved "else" then
      let no ← nested.list .nonempty
      return .conditional test yes no
    else
      hold t
      return .conditional test yes .nothing

def body (o : Outlook) : Reading Command := do
  nested.expectReserved o "do"
  let c ← nested.list .nonempty
  nested.expectReserved .plain "done"
  return c

def wordsFrom : Nat → List Word → Reading (List Word)
  | 0, ws => return ws.reverse
  | fuel + 1, ws => do
    match ← nested.token .plain with
    | .word w _ => wordsFrom fuel (w :: ws)
    | t =>
      match t with
      | .lineEnd | .symbol ";" => return ws.reverse
      | t => unexpected t none

def each (line : Nat) : Reading Command := do
  match ← nested.token .plain with
  | .word w false =>
    match (Part.bareText? w).filter isName with
    | some name =>
      let t ← nested.token .onward
      if t.isReserved "in" then
        let ws ← nested.wordsFrom maxReading []
        return .each line name ws (← nested.body .onward)
      else
        if !t.isSymbol ";" then hold t
        return .each line name [allParameters] (← nested.body .onward)
    | none => fail "Bad for loop variable"
  | _ => fail "Bad for loop variable"

def wordOf (before : Word) : Token → Word
  | .word w _ => w
  | .reserved text => [.text text false]
  | _ => before

def patternsFrom : Nat → Token → List Word → Reading (List Word)
  | 0, _, ws => return ws.reverse
  | fuel + 1, t, ws => do
    let ws := wordOf (ws.head?.getD []) t :: ws
    let t ← nested.token .plain
    if t.isSymbol "|" then patternsFrom fuel (← nested.token .plain) ws
    else if t.isSymbol ")" then return ws.reverse
    else unexpected t (some "\")\"")

def armsFrom : Nat → List (List Word × Command) → Reading (List (List Word × Command))
  | 0, arms => return arms.reverse
  | fuel + 1, arms => do
    let t ← nested.token .pattern
    if t.isReserved "esac" then return arms.reverse
    else
      let t ← if t.isSymbol "(" then nested.token .plain else pure t
      let patterns ← nested.patternsFrom maxReading t []
      let c ← nested.list .any
      let t ← nested.token .pattern
      let arms := (patterns, c) :: arms
      if t.isReserved "esac" then return arms.reverse
      else if t.isSymbol ";;" then armsFrom fuel arms
      else unexpected t (some "\";;\"")

def choice (line : Nat) : Reading Command := do
  match ← nested.token .plain with
  | .word w _ =>
    nested.expectReserved .onward "in"
    return .choose line w (← nested.armsFrom maxReading [])
  | t => unexpected t (some "word")

def commandFrom : Reading Command := do
  let line := (← get).line
  let t ← nested.token .plain
  let closed (c : Command) (test : Token → Bool) (shown : String) : Reading Command := do
    nested.expect .plain test shown
    nested.withRedirects line c
  match t with
  | .word .. | .arrow _ =>
    hold t
    nested.simpleFrom line maxReading ⟨[], [], []⟩
  | .symbol "(" =>
    let c ← nested.list .nonempty
    closed (.subshell line c []) (Token.isSymbol ")") "\")\""
  | .reserved "\x7b" =>
    let c ← nested.list .nonempty
    closed c (Token.isReserved "\x7d") "\"\x7d\""
  | .reserved "if" =>
    let c ← nested.conditionalFrom maxReading
    closed c (Token.isReserved "fi") "\"fi\""
  | .reserved "while" | .reserved "until" =>
    let test ← nested.list .nonempty
    let c ← nested.body .plain
    nested.withRedirects line (.loop (t.isReserved "until") test c)
  | .reserved "for" =>
    let c ← nested.each line
    nested.withRedirects line c
  | .reserved "case" =>
    let c ← nested.choice line
    nested.withRedirects line c
  | t => unexpected t none

def pipedFrom : Nat → List Command → Reading (List Command)
  | 0, cs => return cs.reverse
  | fuel + 1, cs => do
    let t ← nested.token .plain
    if t.isSymbol "|" then
      hold (← nested.token .onward)
      pipedFrom fuel ((← nested.commandFrom) :: cs)
    else
      hold t
      return cs.reverse

def pipeline : Reading Command := do
  let t ← nested.token .plain
  let isNegated := t.isReserved "!"
  hold (← if isNegated then nested.token .start else pure t)
  let first ← nested.commandFrom
  let rest ← nested.pipedFrom maxReading []
  let c := if rest.isEmpty then first else .pipeline (first :: rest) false
  return if isNegated then .negated c else c

def chainFrom : Nat → Command → Reading Command
  | 0, c => return c
  | fuel + 1, c => do
    let t ← nested.token .plain
    if t.isSymbol "&&" then
      hold (← nested.token .onward)
      chainFrom fuel (.both c (← nested.pipeline))
    else if t.isSymbol "||" then
      hold (← nested.token .onward)
      chainFrom fuel (.either c (← nested.pipeline))
    else
      hold t
      return c

def inBackground : Command → Command
  | .pipeline cs _ => .pipeline cs true
  | .redirected line c rs => .background line c rs
  | c => .background 0 c []

def joined (before : Option Command) (c : Command) : Command :=
  before.elim c fun b => .sequence b c

def listFrom (e : Extent) : Nat → Bool → Option Command → Reading Command
  | 0, _, _ => return .nothing
  | fuel + 1, isOpen, before => do
    let t ← nested.token (if e = .line then .start else .onward)
    match t with
    | .lineEnd =>
      readDocuments (nested.commands maxReading)
      return before.getD .nothing
    | .endOfFile =>
      readDocuments (nested.commands maxReading)
      hold t
      return before.getD .nothing
    | t =>
      hold t
      if isOpen && t.endsList then return before.getD .nothing
      else
        let c ← nested.chainFrom maxReading (← nested.pipeline)
        let mayEnd := e ≠ .line
        match ← nested.token .plain with
        | .symbol "&" => listFrom e fuel mayEnd (joined before (inBackground c))
        | .symbol ";" => listFrom e fuel mayEnd (joined before c)
        | t =>
          match t with
          | .lineEnd | .endOfFile =>
            hold t
            listFrom e fuel mayEnd (joined before c)
          | t =>
            if e = .line then unexpected t none
            else
              hold t
              return joined before c

end Nested

def maxNesting : Nat := 1000000000

def nestedTo : Nat → Nested
  | 0 => ⟨fun _ => return .nothing, return .nothing⟩
  | depth + 1 =>
    { list := fun e => (nestedTo depth).listFrom e maxReading (e == .any) none
      command := fun r => (nestedTo depth).commandFrom r }

def nextLine? : Reading (Option Command) := do
  modify fun r => { r with held := none }
  let c ← (nestedTo maxNesting).list .line
  match (← get).held, c with
  | some .endOfFile, .nothing => return none
  | _, c => return some c

end ServerKeeper.Shell
