import ServerKeeper.Tool.Amounts
import ServerKeeper.Tool.Options

namespace ServerKeeper.Tool

open Host

def isBlank (c : Char) : Bool := c = ' ' || c = '\t'

structure Line where
  text : String
  isEnded : Bool

namespace Line

def whole (l : Line) : String := if l.isEnded then l.text.push '\n' else l.text

def endedBy (l : Line) (mark : Char) : String := if l.isEnded then l.text.push mark else l.text

end Line

def linesBy (mark : Char) (text : String) : List Line :=
  let rec go : List String → List Line
    | [] => []
    | [last] => if last.isEmpty then [] else [⟨last, false⟩]
    | l :: rest => ⟨l, true⟩ :: go rest
  go (text.splitOn mark.toString)

def linesOf (text : String) : List Line := linesBy '\n' text

namespace Job

def handOn (f : Line → Job Bool) : List String → Job (Option String)
  | [] => return some ""
  | [last] => return some last
  | l :: rest => do
    if ← f ⟨l, true⟩ then handOn f rest else return none

/-- Hands the lines of an input on, one by one, until no more is wanted; says whether it came to its
end. -/
def eachLineFrom (fd : Nat) (mark : Char) (f : Line → Job Bool) :
    Nat → String → Job (Except FileFault Bool)
  | 0, _ => return .ok true
  | fuel + 1, before => do
    match ← ask (.read fd 65536) with
    | .error fault => return .error fault
    | .ok piece =>
      if piece.isEmpty then
        if before.isEmpty then return .ok true else return .ok (← f ⟨before, false⟩)
      else
        match ← handOn f ((before ++ piece).splitOn mark.toString) with
        | none => return .ok false
        | some rest => eachLineFrom fd mark f fuel rest

def eachLine (fd : Nat) (mark : Char) (f : Line → Job Bool) : Job (Except FileFault Bool) :=
  eachLineFrom fd mark f maxRounds ""

/-- Hands what is left of an input on, piece by piece. Gives why it ended too early, and what has
come of it. -/
def eachPiece {σ : Type} (fd : Nat) (f : σ → String → Job σ) :
    Nat → σ → Job (Option FileFault × σ)
  | 0, s => return (none, s)
  | fuel + 1, s => do
    match ← ask (.read fd 65536) with
    | .error fault => return (some fault, s)
    | .ok piece =>
      if piece.isEmpty then return (none, s)
      else
        let s ← f s piece
        eachPiece fd f fuel s

end Job

structure LineSource where
  fd : Nat
  mark : Char
  ready : List String
  rest : String

namespace LineSource

def ofInput (fd : Nat) (mark : Char) : LineSource := ⟨fd, mark, [], ""⟩

def pull : Nat → LineSource → Job (Except FileFault (Option Line) × LineSource)
  | 0, s => return (.ok none, s)
  | fuel + 1, s => do
    match s.ready with
    | l :: ready => return (.ok (some ⟨l, true⟩), { s with ready })
    | [] =>
      match ← Job.ask (.read s.fd 65536) with
      | .error fault => return (.error fault, s)
      | .ok piece =>
        if piece.isEmpty then
          let last := if s.rest.isEmpty then none else some ⟨s.rest, false⟩
          return (.ok last, { s with rest := "" })
        else
          let parts := (s.rest ++ piece).splitOn s.mark.toString
          pull fuel { s with ready := parts.dropLast, rest := parts.getLast?.getD "" }

def next (s : LineSource) : Job (Except FileFault (Option Line) × LineSource) :=
  pull maxRounds s

end LineSource

def rightAligned (width : Nat) (text : String) : String :=
  String.ofList (List.replicate (width - text.length) ' ') ++ text

def leftAligned (width : Nat) (text : String) : String :=
  text ++ String.ofList (List.replicate (width - text.length) ' ')

end ServerKeeper.Tool
