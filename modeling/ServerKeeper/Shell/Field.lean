import ServerKeeper.Shell.Pattern

namespace ServerKeeper.Shell

inductive Split
  | nowhere
  | anywhere
  | atEnds
  deriving DecidableEq

structure Piece where
  text : String
  isQuoted : Bool
  split : Split
  isMark : Bool

namespace Piece

def ofText (text : String) (isQuoted : Bool) (split : Split) : Piece :=
  ⟨text, isQuoted, split, isQuoted⟩

def ofValue (text : String) (isQuoted : Bool) : Piece :=
  ⟨text, isQuoted, if isQuoted then .nowhere else .anywhere, false⟩

end Piece

def joinedText (ps : List Piece) : String := String.join (ps.map (·.text))

abbrev Mark := Char × Bool

def marksOf (p : Piece) : List Mark := p.text.toList.map (·, p.isQuoted)

def patternText (marks : List Mark) : List Char :=
  marks.flatMap fun (c, isQuoted) => if isQuoted then ['\\', c] else [c]

def isBlankSeparator (c : Char) : Bool := c == ' ' || c == '\t' || c == '\n' || c == '\x00'

structure Splitting where
  /-- The fields, and the characters of the last one, which is not complete. The last ones come
  first. -/
  fields : List (List Mark)
  current : List Mark
  isStarted : Bool
  inBlanks : Bool
  /-- Whether the last piece that may be split is one that is split at ends only. -/
  wasAtEnds : Bool
  limit : Option Nat
  cut : Option Nat

namespace Splitting

def start (limit : Option Nat) : Splitting := ⟨[], [], false, false, false, limit, none⟩

def push (s : Splitting) (m : Mark) : Splitting :=
  { s with current := m :: s.current, isStarted := true }

def endField (s : Splitting) : Splitting :=
  { s with fields := s.current.reverse :: s.fields, current := [], isStarted := false }

def step (separators : String) (afterEnds atEnds : Bool) (s : Splitting) (m : Mark) : Splitting :=
  let c := m.1
  let separates := c == '\x00' || !atEnds && separators.contains c
  let isBlank := separates && isBlankSeparator c
  if s.limit = some 0 then
    let s' := s.push m
    if isBlank then { s' with cut := some (s.cut.getD s.current.length) }
    else
      let cut := if separates && s.inBlanks then s.cut else none
      { s' with cut, inBlanks := false }
  else if s.inBlanks && isBlank then s
  else if s.inBlanks && separates then { s with inBlanks := false }
  else if separates then
    let inBlanks := if afterEnds || atEnds then s.inBlanks else isBlank
    if !s.isStarted && inBlanks then { s with inBlanks := false }
    else if s.limit = some 1 then
      { s.push m with limit := some 0, cut := some s.current.length, inBlanks }
    else { s.endField with limit := s.limit.map (· - 1), inBlanks }
  else { s.push m with inBlanks := false }

def add (separators : String) (s : Splitting) (p : Piece) : Splitting :=
  match p.split with
  | .nowhere =>
    { s with
      current := (marksOf p).reverse ++ s.current
      isStarted := s.isStarted || p.isMark || !p.text.isEmpty }
  | split =>
    let atEnds := split == .atEnds
    let s' := { s with inBlanks := false, wasAtEnds := atEnds }
    p.text.foldl (fun t c => step separators s.wasAtEnds atEnds t (c, p.isQuoted)) s'

def finish (s : Splitting) : List (List Mark) :=
  let s :=
    match s.cut with
    | some n =>
      let current := s.current.drop (s.current.length - n)
      { s with current, isStarted := n ≠ 0 }
    | none => s
  (if s.wasAtEnds || s.isStarted then s.endField else s).fields.reverse

end Splitting

def fieldsOf (separators : String) (limit : Option Nat) (ps : List Piece) : List (List Mark) :=
  (ps.foldl (Splitting.add separators) (Splitting.start limit)).finish

end ServerKeeper.Shell
