import ServerKeeper.Regex.Node
import ServerKeeper.Tool.Lines

namespace ServerKeeper.Tool.Sets

open Job Host
open ShownPath (literal)

inductive Part
  | char (c : Char)
  | range (first last : Char)
  | named (name : String)
  | same (c : Char)
  | several (c : Char) (count : Option Nat)

abbrev Marked := Char × Bool

def octal? (cs : List Char) : Option (Char × List Char × List String) :=
  let ds := (cs.take 3).takeWhile fun c => '0' ≤ c && c ≤ '7'
  if ds.isEmpty then none
  else
    let value (ds : List Char) : Nat := ds.foldl (fun n c => 8 * n + (c.toNat - 48)) 0
    if value ds ≤ 255 then some (Char.ofNat (value ds), cs.drop ds.length, [])
    else
      let text := String.ofList ds
      let (short, last) := (String.ofList (ds.take 2), String.ofList (ds.drop 2))
      some (Char.ofNat (value (ds.take 2)), cs.drop 2,
        ["the ambiguous octal escape \\" ++ text ++
         " is being\n\tinterpreted as the 2-byte sequence \\0"
          ++ short ++ ", " ++ last])

def marked : Nat → List Char → List Marked × List String
  | 0, _ | _, [] => ([], [])
  | fuel + 1, '\\' :: rest =>
    match octal? rest with
    | some (c, rest, warnings) =>
      let (ms, more) := marked fuel rest
      ((c, true) :: ms, warnings ++ more)
    | none =>
      match rest with
      | [] => ([('\\', false)], ["an unescaped backslash at end of string is not portable"])
      | c :: rest =>
        let named := [('a', '\x07'), ('b', '\x08'), ('f', '\x0c'), ('n', '\n'), ('r', '\r'),
          ('t', '\t'), ('v', '\x0b')]
        let (ms, warnings) := marked fuel rest
        (((named.lookup c).getD c, true) :: ms, warnings)
  | fuel + 1, c :: rest =>
    let (ms, warnings) := marked fuel rest
    ((c, false) :: ms, warnings)

def plain (m : Marked) (c : Char) : Bool := m.1 = c && !m.2

def untilMark (mark : Char) : List Marked → Option (List Marked × List Marked)
  | a :: b :: rest =>
    if plain a mark && plain b ']' then some ([], rest)
    else (untilMark mark (b :: rest)).map fun (inner, rest) => (a :: inner, rest)
  | _ => none

def textOf (ms : List Marked) : String := String.ofList (ms.map (·.1))

def count? (text : String) : Option Nat :=
  let base := if text.startsWith "0" then 8 else 10
  let n := text.foldl (fun n c => base * n + (c.toNat - 48)) 0
  if (text.all fun c => '0' ≤ c && c.toNat < 48 + base) && n < wordLimit - 1 then some n else none

def construct? : List Marked → Except String (Option (Part × List Marked))
  | a :: b :: rest => do
    if !plain a '[' then return none
    else if plain b ':' then
      match untilMark ':' rest with
      | some (name, rest) =>
        match Regex.classTest? (textOf name) with
        | some _ => return some (.named (textOf name), rest)
        | none =>
          if name.isEmpty then throw "missing character class name '[::]'"
          else throw ("invalid character class " ++ literal (textOf name))
      | none => several b rest
    else if plain b '=' then
      match untilMark '=' rest with
      | some ([c], rest) => return some (.same c.1, rest)
      | some (cs, _) =>
        if cs.isEmpty then throw "missing equivalence class character '[==]'"
        else throw (textOf cs ++ ": equivalence class operand must be a single character")
      | none => several b rest
    else several b rest
  | _ => return none
where
  several (c : Marked) (rest : List Marked) : Except String (Option (Part × List Marked)) := do
    match rest with
    | star :: rest =>
      if !plain star '*' then return none
      else
        let digits := rest.takeWhile fun m => !plain m ']'
        match rest.drop digits.length with
        | [] => return none
        | _ :: after =>
          let text := textOf digits
          if text.isEmpty then return some (.several c.1 none, after)
          else
            match count? text with
            | some n => return some (.several c.1 (if n = 0 then none else some n), after)
            | none => throw ("invalid repeat count " ++ literal text ++ " in [c*n] construct")
    | [] => return none

def parts : Nat → List Marked → Except String (List Part)
  | 0, _ | _, [] => return []
  | fuel + 1, m :: rest => do
    match ← construct? (m :: rest) with
    | some (p, rest) => return p :: (← parts fuel rest)
    | none =>
      match rest with
      | dash :: last :: after =>
        if plain dash '-' then
          if last.1 < m.1 then
            throw ("range-endpoints of " ++ literal (String.ofList [m.1, '-', last.1]) ++
              " are in reverse collating sequence order")
          else return .range m.1 last.1 :: (← parts fuel after)
        else return .char m.1 :: (← parts fuel rest)
      | rest => return .char m.1 :: (← parts fuel rest)

def between (first last : Nat) : List Char :=
  (List.range (last + 1 - first)).map fun i => Char.ofNat (first + i)

def allChars : List Char := between 0 255

def mostRepeated : Nat := 65536

def Part.chars (fill : Nat) : Part → List Char
  | char c | same c => [c]
  | range a b => between a.toNat b.toNat
  | named name => allChars.filter ((Regex.classTest? name).getD fun _ => false)
  | several c (some n) => List.replicate (min n mostRepeated) c
  | several c none => List.replicate fill c

def charsOf (ps : List Part) (fill : Nat) : List Char := ps.flatMap (Part.chars fill)

def isFiller : Part → Bool
  | .several _ none => true
  | _ => false

def readSet (text : String) : Job (List Part) := do
  let (ms, warnings) := marked (text.length + 1) text.toList
  for warning in warnings do tell ((← get).name ++ ": warning: " ++ warning ++ "\n")
  match parts (text.length + 1) ms with
  | .ok ps => return ps
  | .error text => fail text

structure Plan where
  deletes : Regex.ByteSet
  replaced : Array Char
  squeezes : Regex.ByteSet

def carryOut (p : Plan) (text : String) (last : Option Char) : String × Option Char :=
  let (acc, last) := text.foldl
    (fun (acc, last) c =>
      if p.deletes.contains c then (acc, last)
      else
        let c := p.replaced.getD c.toNat c
        if last = some c && p.squeezes.contains c then (acc, last) else (c :: acc, some c))
    (([] : List Char), last)
  (String.ofList acc.reverse, last)

def carryOutOnInput (p : Plan) : Nat → Option Char → Job Unit
  | 0, _ => pure ()
  | fuel + 1, last => do
    match ← ask (.read 0 65536) with
    | .error fault => complain ("read error: " ++ fault.text)
    | .ok piece =>
      if !piece.isEmpty then
        let (text, last) := carryOut p piece last
        print text
        carryOutOnInput p fuel last

def setOf (cs : List Char) : Regex.ByteSet :=
  let members := cs.foldl (fun (a : Array Bool) c => a.setIfInBounds c.toNat true)
    (Array.replicate 256 false)
  ⟨members⟩

def noChars : Regex.ByteSet := ⟨#[]⟩

def mapping (pairs : List (Char × Char)) : Array Char :=
  pairs.foldl (fun a (b, c) => a.setIfInBounds b.toNat c) allChars.toArray

def isCase : Part → Bool
  | .named name => name == "upper" || name == "lower"
  | _ => false

def isNamed : Part → Bool
  | .named _ => true
  | _ => false

def isSame : Part → Bool
  | .same _ => true
  | _ => false

def caseStarts (fill : Nat) : List Part → Nat → List Nat
  | [], _ => []
  | p :: ps, n =>
    let rest := caseStarts fill ps (n + (p.chars fill).length)
    if isCase p then n :: rest else rest

def fitted (first second : List Part) (size : Nat) (complements truncates : Bool) :
    Job (List Char) := do
  let fixed := charsOf second 0
  let fill := size - fixed.length
  if (second.filter isFiller).length > 1 then
    fail "only one [c*] repeat construct may appear in string2"
  if second.any isSame then
    fail "[=c=] expressions may not appear in string2 when translating"
  if second.any fun p => isNamed p && !isCase p then
    fail ("when translating, the only character classes that may appear in\n" ++
      "string2 are 'upper' and 'lower'")
  let cases := caseStarts 0 first 0
  unless complements do
    if (caseStarts fill second 0).any fun n => n ≤ size && !cases.contains n then
      fail "misaligned [:upper:] and/or [:lower:] construct"
  let all := charsOf second fill
  if truncates || size ≤ all.length then return all
  match all.getLast? with
  | none => fail "when not truncating set1, string2 must be non-empty"
  | some last =>
    if second.getLast?.any isNamed then
      fail ("when translating with string1 longer than string2,\n" ++
        "the latter string must not end with a character class")
    return all ++ List.replicate (size - all.length) last

def tr : Utility where
  name := "tr"
  operands := "[OPTION]... STRING1 [STRING2]"
  work arguments := do
    let t := OptionTable.ofTexts "cCdst"
      ["complement c", "delete d", "squeeze-repeats s", "truncate-set1 t"] false 1
    let (found, operands) ← t.parse arguments
    let has := Chosen.has found
    let complements := has "c" || has "C"
    let deletes := has "d"
    let squeezes := has "s"
    let replaces := operands.length > 1 && !deletes
    let least := if deletes == squeezes then 2 else 1
    let most := if deletes && !squeezes then 1 else 2
    if operands.length < least then
      match operands with
      | [] => misuse "missing operand"
      | operand :: _ =>
        complain ("missing operand after " ++ literal operand)
        tell (if squeezes then
            "Two strings must be given when both deleting and squeezing repeats.\n"
          else "Two strings must be given when translating.\n")
        hint 1
    if operands.length > most then
      complain ("extra operand " ++ literal (operands.getD most ""))
      if operands.length = 2 then
        tell "Only one string may be given when deleting without squeezing repeats.\n"
      hint 1
    let firstParts ← readSet (operands.headD "")
    if firstParts.any isFiller then
      fail "the [c*] repeat construct may not appear in string1"
    let secondParts ← readSet (operands.getD 1 "")
    let named := charsOf firstParts 0
    let first :=
      if complements then
        let s := setOf named
        allChars.filter fun c => !s.contains c
      else named
    if replaces then
      let second ← fitted firstParts secondParts first.length complements (has "t")
      if complements && firstParts.any isNamed &&
          !(second.length = first.length && second.all fun c => some c = second.head?) then
        fail ("when translating with complemented character classes,\n" ++
          "string2 must map all characters in the domain to one")
      let plan : Plan :=
        ⟨noChars, mapping (first.zip second), if squeezes then setOf second else noChars⟩
      carryOutOnInput plan maxRounds none
    else
      if secondParts.any isFiller then
        fail "the [c*] construct may appear in string2 only when translating"
      let identity := allChars.toArray
      let second := charsOf secondParts 0
      let plan : Plan :=
        if deletes then ⟨setOf first, identity, if squeezes then setOf second else noChars⟩
        else ⟨noChars, identity, setOf first⟩
      carryOutOnInput plan maxRounds none

end ServerKeeper.Tool.Sets
