import ServerKeeper.Host.Process
import ServerKeeper.Regex.Machine

namespace ServerKeeper.Tool.Finding

open Host

inductive Bound
  | exactly (n : Int)
  | above (n : Int)
  | below (n : Int)

namespace Bound

def admits : Bound → Int → Bool
  | exactly n, x => x == n
  | above n, x => x > n
  | below n, x => x < n

end Bound

inductive Stamp
  | accessed
  | changed
  | modified
  deriving DecidableEq

def Stamp.of (t : Stamp) (s : FileStatus) : Moment :=
  match t with
  | accessed => s.accessed
  | changed => s.changed
  | modified => s.modified

inductive Fit
  | same
  | all
  | some
  deriving DecidableEq

inductive Test
  | always
  | never
  | name (pattern : String) (ignoresCase : Bool)
  | path (pattern : String) (ignoresCase : Bool)
  | target (pattern : String) (ignoresCase : Bool)
  | regex (r : Regex.Compiled)
  /-- One of some kinds, each by its letter; of the file itself, or of what it stands for otherwise.
  -/
  | kind (letters : List Char) (isOther : Bool)
  | empty
  | size (unit : Nat) (b : Bound)
  | mode (fit : Fit) (mode directoryMode : Nat)
  | owner (b : Bound)
  | group (b : Bound)
  | ownerless
  | groupless
  | newer (t : Stamp) (than : Moment)
  | days (t : Stamp) (b : Bound)
  | minutes (t : Stamp) (b : Bound)
  | used (b : Bound)
  | links (b : Bound)
  | number (b : Bound)
  | executable

structure Command where
  words : List String
  isShared : Bool
  isInside : Bool
  asks : Bool
  index : Nat

abbrev Outlet := Option Nat

inductive Action
  | print (out : Outlet) (mark : String)
  | printf (out : Outlet) (format : String)
  | list (out : Outlet)
  | run (c : Command)
  | delete
  | prune
  | quit

inductive Criterion
  | test (t : Test)
  | action (a : Action)
  | negation (c : Criterion)
  | both (a b : Criterion)
  | either (a b : Criterion)
  | sequence (a b : Criterion)

instance : Inhabited Criterion := ⟨.test .always⟩

inductive Following
  | never
  | atStart
  | always
  deriving DecidableEq

structure Quest where
  following : Following
  starts : List String
  isDeepFirst : Bool
  least : Nat
  most : Option Nat
  criterion : Criterion
  now : Moment

inductive Joint
  | sequence
  | either
  | both
  deriving DecidableEq

def Joint.rank : Joint → Nat
  | sequence => 1
  | either => 2
  | both => 3

def Joint.apply : Joint → Criterion → Criterion → Criterion
  | sequence => .sequence
  | either => .either
  | both => .both

inductive Word
  | primary (c : Criterion)
  | negation (shown : String)
  | joint (j : Joint) (shown : String)
  | opening (isImplied : Bool)
  | closing (isImplied : Bool)

namespace Word

/-- How tightly a word joins what stands in front of it to what follows; other words do not. -/
def rank : Word → Nat
  | joint j _ => j.rank
  | _ => 0

def endsCriterion : Word → Bool
  | primary _ | closing _ => true
  | _ => false

def beginsCriterion : Word → Bool
  | primary _ | negation _ | opening _ => true
  | _ => false

def joined : List Word → List Word
  | a :: b :: rest =>
    if a.endsCriterion && b.beginsCriterion then a :: joint .both "-a" :: joined (b :: rest)
    else a :: joined (b :: rest)
  | ws => ws

def negationRank : Nat := 4

def misplaced (before : Option Word) : Word → String
  | closing isImplied =>
    match before with
    | some (negation shown) | some (joint _ shown) =>
      if isImplied then "expected an expression after '" ++ shown ++ "'"
      else "expected an expression between '" ++ shown ++ "' and ')'"
    | _ => "invalid expression; you have too many ')'"
  | joint _ shown =>
    "invalid expression; you have used a binary operator '" ++ shown ++ "' with nothing before it."
  | _ => "invalid expression"

mutual

def criterion : Nat → Nat → Option Word → List Word → Except String (Criterion × List Word)
  | 0, _, _, _ => .error "invalid expression"
  | fuel + 1, rank, before, words =>
    match words with
    | [] => .error "invalid expression"
    | w :: rest =>
      match w with
      | .primary c => onward fuel rank c rest
      | .negation _ => do
        let (c, rest) ← criterion fuel negationRank (some w) rest
        onward fuel rank (.negation c) rest
      | .opening _ =>
        match rest with
        | [] | .closing true :: _ =>
          .error ("invalid expression; expected to find a ')' but didn't see one. " ++
            "Perhaps you need an extra predicate after '('")
        | .closing false :: _ => .error "invalid expression; empty parentheses are not allowed."
        | rest => do
          let (c, rest) ← criterion fuel 0 (some w) rest
          match rest with
          | .closing _ :: rest => onward fuel rank c rest
          | _ =>
            .error ("invalid expression; I was expecting to find a ')' somewhere but did not " ++
              "see one.")
      | w => .error (misplaced before w)

def onward : Nat → Nat → Criterion → List Word → Except String (Criterion × List Word)
  | 0, _, _, _ => .error "invalid expression"
  | fuel + 1, rank, c, words =>
    match words with
    | .joint j shown :: rest =>
      if j.rank > rank then do
        let (d, rest) ← criterion fuel j.rank (some (.joint j shown)) rest
        onward fuel rank (j.apply c d) rest
      else .ok (c, words)
    | _ => .ok (c, words)

end

def whole (words : List Word) (isActive : Bool) : Except String Criterion := do
  let words :=
    if isActive then words
    else if words.isEmpty then [.primary (.action (.print none "\n"))]
    else .opening true :: words ++ [.closing true, .primary (.action (.print none "\n"))]
  let words := joined words
  let (c, rest) ← criterion (4 * words.length + 4) 0 none words
  match rest with
  | [] => return c
  | .closing _ :: _ => throw "you have too many ')'"
  | _ => throw "invalid expression"

end Word

end ServerKeeper.Tool.Finding
