namespace ServerKeeper.Shell

inductive Members
  | range (low high : Char)
  | satisfying (test : Char → Bool)

def Members.has : Members → Char → Bool
  | range low high, c => low ≤ c && c ≤ high
  | satisfying test, c => test c

inductive Pattern.Element
  | one (c : Char)
  | any
  | many
  | among (negated : Bool) (members : List Members)

abbrev Pattern := List Pattern.Element

def characterClasses : List (String × (Char → Bool)) :=
  let isPunctuation (c : Char) : Bool := '!' ≤ c && c ≤ '~' && !c.isAlphanum
  [("alnum", Char.isAlphanum), ("alpha", Char.isAlpha), ("blank", fun c => c == ' ' || c == '\t'),
   ("cntrl", fun c => c < ' ' || c == '\x7f'), ("digit", Char.isDigit),
   ("graph", fun c => '!' ≤ c && c ≤ '~'), ("lower", Char.isLower),
   ("print", fun c => ' ' ≤ c && c ≤ '~'), ("punct", isPunctuation),
   ("space", fun c => c == ' ' || '\t' ≤ c && c ≤ '\x0d'), ("upper", Char.isUpper),
   ("xdigit", fun c => c.isDigit || 'a' ≤ c && c ≤ 'f' || 'A' ≤ c && c ≤ 'F')]

namespace Pattern

def namedClass? (cs : List Char) : Option (Members × List Char) :=
  match cs with
  | ':' :: rest => do
    let name := rest.takeWhile Char.isLower
    let test ← characterClasses.lookup (String.ofList name)
    match rest.drop name.length with
    | ':' :: ']' :: rest => some (.satisfying test, rest)
    | _ => none
  | _ => none

/-- The members of a bracket up to its end. A closing bracket that comes first is a member. -/
def members? : Nat → Bool → List Char → Option (List Members × List Char)
  | 0, _, _ | _, _, [] => none
  | _ + 1, false, ']' :: rest => some ([], rest)
  | fuel + 1, _, c :: rest =>
    let onward (m : Members) (rest : List Char) : Option (List Members × List Char) :=
      (members? fuel false rest).map fun (ms, rest) => (m :: ms, rest)
    match if c = '[' then namedClass? rest else none with
    | some (m, rest) => onward m rest
    | none =>
      let single (c : Char) (rest : List Char) : Option (List Members × List Char) :=
        match rest with
        | '-' :: ']' :: _ => onward (.range c c) rest
        | '-' :: '\\' :: high :: rest | '-' :: high :: rest => onward (.range c high) rest
        | rest => onward (.range c c) rest
      match c, rest with
      | '\\', d :: rest => single d rest
      | c, rest => single c rest

def elements : Nat → List Char → Pattern
  | 0, _ | _, [] => []
  | fuel + 1, '\\' :: c :: rest => .one c :: elements fuel rest
  | fuel + 1, '*' :: rest => .many :: elements fuel rest
  | fuel + 1, '?' :: rest => .any :: elements fuel rest
  | fuel + 1, '[' :: rest =>
    let (negated, inside) :=
      match rest with
      | '!' :: inside => (true, inside)
      | inside => (false, inside)
    match members? (inside.length + 1) true inside with
    | some (ms, rest) => .among negated ms :: elements fuel rest
    | none => .one '[' :: elements fuel rest
  | fuel + 1, c :: rest => .one c :: elements fuel rest

def ofChars (cs : List Char) : Pattern := elements cs.length cs

def someEnd (test : List Char → Bool) : List Char → Bool
  | [] => test []
  | c :: cs => test (c :: cs) || someEnd test cs

def fits : Pattern → List Char → Bool
  | [], cs => cs.isEmpty
  | [.many], _ => true
  | .many :: ps, cs => someEnd (fits ps) cs
  | .one d :: ps, c :: cs => c == d && fits ps cs
  | .any :: ps, _ :: cs => fits ps cs
  | .among negated ms :: ps, c :: cs => (ms.any fun m => m.has c) != negated && fits ps cs
  | _ :: _, [] => false

def matchesText (pattern text : String) : Bool := fits (ofChars pattern.toList) text.toList

def dropStart (p : Pattern) (longest : Bool) (cs : List Char) : List Char :=
  let lengths := List.range (cs.length + 1)
  let lengths := if longest then lengths.reverse else lengths
  match lengths.find? fun n => fits p (cs.take n) with
  | some n => cs.drop n
  | none => cs

def dropEnd (p : Pattern) (longest : Bool) (cs : List Char) : List Char :=
  let lengths := List.range (cs.length + 1)
  let lengths := if longest then lengths else lengths.reverse
  match lengths.find? fun n => fits p (cs.drop n) with
  | some n => cs.take n
  | none => cs

end Pattern

end ServerKeeper.Shell
