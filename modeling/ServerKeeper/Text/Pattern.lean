import ServerKeeper.Text.Word

namespace ServerKeeper.Text

inductive Pattern
  | char (c : Char)
  | many (p : Char → Bool)
  | seq (first second : Pattern)
  | either (first second : Pattern)
  | optional (inner : Pattern)
  | group (inner : Pattern)

/-- What a pattern goes over at the start of a text, in whole and for each of its groups, and what
follows. A group that took no part has no text. -/
structure Match where
  whole : List Char
  groups : List (Option (List Char))
  rest : List Char
  deriving DecidableEq

namespace Match

def group? (m : Match) : Nat → Option (List Char)
  | 0 => some m.whole
  | i + 1 => m.groups[i]?.join

/-- Two matches, the second of which begins where the first one ends. -/
def append (m n : Match) : Match := ⟨m.whole ++ n.whole, m.groups ++ n.groups, n.rest⟩

def grouped (m : Match) : Match := { m with groups := some m.whole :: m.groups }

end Match

namespace Pattern

/-- The runs of a class that a text starts with, each with what follows it, the longest first. -/
@[simp]
def runs (p : Char → Bool) : List Char → List (List Char × List Char)
  | [] => []
  | c :: text =>
    if p c then (runs p text).map (fun (run, rest) => (c :: run, rest)) ++ [([c], text)]
    else []

@[simp]
def unset : Pattern → List (Option (List Char))
  | char _ => []
  | many _ => []
  | seq first second => first.unset ++ second.unset
  | either first second => first.unset ++ second.unset
  | optional inner => inner.unset
  | group inner => none :: inner.unset

/-- All matches at the start of a text, the preferred one first: a longer run comes before a shorter
one, the first alternative before the second, and an optional part before its absence. -/
@[simp]
def matchesAt : Pattern → List Char → List Match
  | char _, [] => []
  | char c, d :: rest => if c = d then [⟨[c], [], rest⟩] else []
  | many p, text => (runs p text).map fun (run, rest) => ⟨run, [], rest⟩
  | seq first second, text =>
    (first.matchesAt text).flatMap fun m => (second.matchesAt m.rest).map m.append
  | either first second, text =>
    (first.matchesAt text).map (fun m => { m with groups := m.groups ++ second.unset }) ++
      (second.matchesAt text).map fun m => { m with groups := first.unset ++ m.groups }
  | optional inner, text => inner.matchesAt text ++ [⟨[], inner.unset, text⟩]
  | group inner, text => (inner.matchesAt text).map Match.grouped

def matchAt? (pattern : Pattern) (text : List Char) : Option Match :=
  (pattern.matchesAt text).head?

def find? (pattern : Pattern) : List Char → Option Match
  | [] => pattern.matchAt? []
  | c :: text => (pattern.matchAt? (c :: text)).or (pattern.find? text)

end Pattern

end ServerKeeper.Text
