import ServerKeeper.Shell.Command

namespace ServerKeeper.Shell

structure SyntaxFault where
  line : Nat
  text : String

structure Announced where
  number : Nat
  delimiter : String
  isQuoted : Bool
  withoutTabs : Bool

structure Interrupted where
  name : String
  goesOn : Bool
  rest : List Char

structure Arrow where
  fd : Nat
  symbol : String

inductive Token
  | lineEnd
  | endOfFile
  | symbol (text : String)
  | reserved (text : String)
  | arrow (a : Arrow)
  | word (w : Word) (isQuoted : Bool)

structure Reader where
  rest : List Char
  interrupted : List Interrupted
  line : Nat
  aliases : List (String × String)
  announced : List Announced
  documents : Array Word
  held : Option Token
  /-- Whether the next word may be an alias, because one before it ends in a blank. -/
  nextMayBeAlias : Bool
  spent : List String

abbrev Reading (α : Type) := EStateM SyntaxFault Reader α

namespace Reader

def ofText (text : String) (aliases : List (String × String)) (documents : Array Word) : Reader :=
  ⟨text.toList, [], 1, aliases, [], documents, none, false, []⟩

end Reader

namespace Reading

def fail {α : Type} (text : String) : Reading α := do
  throw ⟨(← get).line, "Syntax error: " ++ text⟩

def resume : Reading Unit := do
  let r ← get
  let rec go : List Interrupted → Reader → Reader
    | i :: more, r =>
      if r.rest.isEmpty then
        go more { r with
          rest := i.rest
          interrupted := more
          nextMayBeAlias := r.nextMayBeAlias || i.goesOn
          spent := i.name :: r.spent }
      else r
    | [], r => r
  if r.rest.isEmpty && !r.interrupted.isEmpty then set (go r.interrupted r)

def look : Reading (Option Char) := do
  resume
  return (← get).rest.head?

def skip : Reading Unit := modify fun r => { r with rest := r.rest.drop 1 }

def nextLine : Reading Unit := modify fun r => { r with line := r.line + 1 }

def lookJoined : Reading (Option Char) := do
  resume
  let rec go : List Char → Nat → List Char × Nat
    | '\\' :: '\n' :: rest, line => go rest (line + 1)
    | rest, line => (rest, line)
  let r ← get
  match r.rest with
  | '\\' :: '\n' :: _ =>
    let (rest, line) := go r.rest r.line
    set { r with rest, line }
    look
  | c :: _ => return some c
  | [] => return none

def accept (c : Char) : Reading Bool := do
  if (← lookJoined) = some c then
    skip
    return true
  else return false

def hold (t : Token) : Reading Unit := modify fun r => { r with held := some t }

end Reading

end ServerKeeper.Shell
