import ServerKeeper.Regex.Machine
import ServerKeeper.Tool.Lines

namespace ServerKeeper.Tool.Searching

open Job Host
open Regex (Compiled)

structure Context where
  before : Nat
  after : Nat

structure Look where
  inverted : Bool
  counts : Bool
  /-- Whether the names of the inputs with a selected line, or of those without one, are listed. -/
  lists : Option Bool
  quiet : Bool
  isVoid : Bool
  silent : Bool
  numbers : Bool
  offsets : Bool
  onlyMatches : Bool
  most : Option Nat
  context : Option Context
  separator : Option String
  mark : Char
  nullNames : Bool
  isText : Bool
  skipsBinary : Bool
  tabs : Bool
  colored : Bool
  names : Bool

namespace Look

def stopsAtFirst (k : Look) : Bool := k.quiet || k.isVoid || k.lists.isSome

def hidesLines (k : Look) : Bool := k.counts || k.stopsAtFirst

def color (k : Look) (code text : String) : String :=
  if k.colored then "\x1b[" ++ code ++ "m\x1b[K" ++ text ++ "\x1b[m\x1b[K" else text

def name (k : Look) (name : String) (mark : String) : String :=
  k.color "35" name ++ if k.nullNames then "\x00" else k.color "36" mark

def listed (k : Look) (name : String) : String :=
  k.color "35" name ++ if k.nullNames then "\x00" else "\n"

end Look

structure NumberedLine where
  number : Nat
  offset : Nat
  text : String

structure Scan where
  lines : Nat
  offset : Nat
  selected : Nat
  left : Option Nat
  recent : List NumberedLine
  owed : Nat
  lastShown : Nat
  /-- Where the input is not text: how many lines had been selected when that was seen. -/
  binaryFrom : Option Nat
  resume : Nat
  hasShown : Bool

namespace Scan

def start (k : Look) (hasShown : Bool) : Scan :=
  ⟨0, 0, 0, k.most, [], 0, 0, none, 0, hasShown⟩

end Scan

/-- What is searched for and how it is shown, together with the name of the input. -/
structure View where
  look : Look
  patterns : List Compiled
  name : String
  width : Nat

namespace View

def match? (v : View) (text : Array Char) (start : Nat) : Option (Nat × Nat) :=
  v.patterns.foldl
    (fun best c =>
      match c.search? text start, best with
      | none, best => best
      | some m, none => some (m.start, m.stop)
      | some m, some (a, b) =>
        if m.start < a || m.start = a && b < m.stop then some (m.start, m.stop) else some (a, b))
    none

def matches? (v : View) (text : Array Char) : Nat → Nat → List (Nat × Nat)
  | 0, _ => []
  | fuel + 1, start =>
    if start ≥ text.size then []
    else
      match v.match? text start with
      | none => []
      | some (a, b) =>
        if b ≤ a then v.matches? text fuel (a + 1)
        else (a, b) :: v.matches? text fuel b

def matchesIn (v : View) (text : Array Char) : List (Nat × Nat) := v.matches? text (text.size + 1) 0

def selects (v : View) (text : String) : Bool :=
  (v.patterns.any (·.isFoundIn text)) != v.look.inverted

def heading (v : View) (number offset : Nat) (mark : String) (isEmpty : Bool) : String :=
  let k := v.look
  let shownNumber (n : Nat) : String :=
    k.color "32" (rightAligned v.width (toString n)) ++ k.color "36" mark
  let head :=
    (if k.names then k.name v.name mark else "") ++
      (if k.numbers then shownNumber number else "") ++ if k.offsets then shownNumber offset else ""
  if k.tabs && (k.names || k.numbers || k.offsets) && !isEmpty then head.push '\t' else head

def colored (v : View) (text : Array Char) (ms : List (Nat × Nat)) : String :=
  let (shown, stop) := ms.foldl
    (fun (shown, stop) (a, b) =>
      (shown ++ Regex.slice text stop a ++ v.look.color "01;31" (Regex.slice text a b), b))
    ("", 0)
  shown ++ Regex.slice text stop text.size

def showLine (v : View) (isSelected : Bool) (l : NumberedLine) : Job Unit := do
  let k := v.look
  let mark := if isSelected then ":" else "-"
  let hasMatch := isSelected != k.inverted
  let text := l.text.toList.toArray
  if k.onlyMatches then
    if hasMatch then
      let mark := if k.inverted then "-" else ":"
      for (a, b) in v.matchesIn text do
        print (v.heading l.number (l.offset + a) mark false ++
          (k.color "01;31" (Regex.slice text a b)).push k.mark)
  else
    let shown := if k.colored && hasMatch then v.colored text (v.matchesIn text) else l.text
    print (v.heading l.number l.offset mark l.text.isEmpty ++ shown.push k.mark)

def showSelected (v : View) (s : Scan) (l : NumberedLine) : Job Unit := do
  let k := v.look
  let before := match k.context with
    | some c => s.recent.take c.before
    | none => []
  let isBehind := s.lastShown > 0 && s.lastShown + before.length + 1 = l.number
  if k.context.isSome && s.hasShown && !isBehind then
    if let some text := k.separator then print ((k.color "36" text).push '\n')
  for l in before.reverse do v.showLine false l
  v.showLine true l

def take (v : View) (s : Scan) (text : String) : Job (Scan × Bool) := do
  let k := v.look
  let l : NumberedLine := ⟨s.lines + 1, s.offset, text⟩
  let next : Scan := { s with lines := s.lines + 1, offset := s.offset + text.length + 1 }
  if s.left = some 0 then
    if s.owed = 0 then return (s, false)
    v.showLine false l
    return ({ next with owed := s.owed - 1 }, s.owed > 1)
  else if v.selects text then
    let isBinary := s.binaryFrom.isSome
    let hides := k.hidesLines || isBinary
    unless hides do v.showSelected s l
    let left := s.left.map (· - 1)
    let after := match k.context with
      | some c => c.after
      | none => 0
    let owed := if hides then 0 else after
    let isLast := k.stopsAtFirst || isBinary && !k.counts || left = some 0 && owed = 0
    return ({ next with
      selected := s.selected + 1
      left
      owed
      recent := []
      lastShown := if hides then s.lastShown else l.number
      hasShown := s.hasShown || !hides
      resume := next.offset }, !isLast)
  else if s.owed > 0 then
    v.showLine false l
    return ({ next with owed := s.owed - 1, recent := [], lastShown := l.number }, true)
  else
    match k.context with
    | some c =>
      let recent := if c.before > 0 then l :: s.recent.take (c.before - 1) else []
      return ({ next with recent }, true)
    | none => return (next, true)

def takeAll (v : View) : List String → Scan → Job (Scan × Bool)
  | [], s => return (s, true)
  | text :: rest, s => do
    let (s, goesOn) ← v.take s text
    if goesOn then v.takeAll rest s else return (s, false)

structure Outcome where
  scan : Scan
  fault? : Option FileFault
  size : Nat
  isLeftOut : Bool

def scanFrom (v : View) (fd : Nat) : Nat → String → Nat → Scan → Job Outcome
  | 0, _, size, s => return ⟨s, none, size, false⟩
  | fuel + 1, rest, size, s => do
    match ← ask (.read fd 98304) with
    | .error fault => return ⟨s, some fault, size, false⟩
    | .ok piece =>
      if piece.isEmpty then
        let (s, _) ← if rest.isEmpty then pure (s, true) else v.take s rest
        return ⟨s, none, size, false⟩
      else
        let size := size + piece.length
        let isBinary := !v.look.isText && v.look.mark ≠ '\x00' && piece.contains '\x00'
        if isBinary && s.binaryFrom.isNone && v.look.skipsBinary then
          return ⟨{ s with selected := 0 }, none, size, true⟩
        else
          let binaryFrom := if isBinary then s.binaryFrom <|> some s.selected else s.binaryFrom
          let piece :=
            if binaryFrom.isSome then piece.map fun c => if c = '\x00' then '\n' else c else piece
          let lines := (rest ++ piece).splitOn v.look.mark.toString
          let (s, goesOn) ← v.takeAll lines.dropLast { s with binaryFrom }
          if goesOn then scanFrom v fd fuel (lines.getLast?.getD "") size s
          else return ⟨s, none, size, false⟩

end View

end ServerKeeper.Tool.Searching
