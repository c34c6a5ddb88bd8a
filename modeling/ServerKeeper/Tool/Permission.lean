namespace ServerKeeper.Tool.Permission

def all : Nat := 0o7777

inductive Source
  | bits
  | existing
  | execution
  deriving DecidableEq

structure Change where
  operator : Char
  source : Source
  affected : Nat
  value : Nat
  mentioned : Nat

def without (a b : Nat) : Nat := a &&& (0o7777 ^^^ (b &&& 0o7777))

def Change.apply (c : Change) (isDirectory : Bool) (mask mode : Nat) : Nat :=
  let kept := if isDirectory then without 0o6000 c.mentioned else 0
  let value :=
    match c.source with
    | .bits => c.value
    | .existing =>
      let some := c.value &&& mode
      let spread (bit : Nat) : Nat := if some &&& (bit * 0o111) ≠ 0 then bit * 0o111 else 0
      some ||| spread 4 ||| spread 2 ||| spread 1
    | .execution =>
      if isDirectory || mode &&& 0o111 ≠ 0 then c.value ||| 0o111 else c.value
  let value := without (value &&& if c.affected ≠ 0 then c.affected else without all mask) kept
  match c.operator with
  | '+' => mode ||| value
  | '-' => without mode value
  | _ =>
    let preserved := (if c.affected ≠ 0 then without all c.affected else 0) ||| kept
    (mode &&& preserved) ||| value

def applyAll (cs : List Change) (isDirectory : Bool) (mask mode : Nat) : Nat :=
  cs.foldl (fun mode c => c.apply isDirectory mask mode) mode

def isOctal (c : Char) : Bool := '0' ≤ c && c ≤ '7'

def octal (cs : List Char) : Nat := cs.foldl (fun n c => 8 * n + (c.toNat - 48)) 0

def classBits (c : Char) : Nat :=
  match c with
  | 'u' => 0o4700
  | 'g' => 0o2070
  | 'o' => 0o1007
  | _ => all

def isClass (c : Char) : Bool := c = 'u' || c = 'g' || c = 'o' || c = 'a'

def isOperator (c : Char) : Bool := c = '+' || c = '-' || c = '='

def letterBits (c : Char) : Nat :=
  match c with
  | 'r' => 0o444
  | 'w' => 0o222
  | 'x' => 0o111
  | 's' => 0o6000
  | 't' => 0o1000
  | _ => 0

def operations (affected : Nat) : Nat → List Char → Option (List Change × List Char)
  | 0, _ => none
  | fuel + 1, cs => do
    match cs with
    | op :: rest =>
      let (change, rest) ←
        match rest with
        | c :: more =>
          if isOctal c then
            let digits := rest.takeWhile isOctal
            let after := rest.drop digits.length
            let n := octal digits
            if affected ≠ 0 || (after.head?.any (· ≠ ',')) || n > all then none
            else some (⟨op, .bits, all, n, all⟩, after)
          else if c = 'u' || c = 'g' || c = 'o' then
            let value := classBits c &&& 0o777
            let kept := if affected ≠ 0 then affected &&& value else value
            some (⟨op, .existing, affected, value, kept⟩, more)
          else letters op rest
        | [] => letters op rest
      match rest with
      | c :: _ =>
        if isOperator c then
          let (more, rest) ← operations affected fuel rest
          some (change :: more, rest)
        else some ([change], rest)
      | [] => some ([change], [])
    | [] => none
where
  letters (op : Char) (rest : List Char) : Option (Change × List Char) :=
    let ls := rest.takeWhile fun c => "rwxXst".contains c
    let value := ls.foldl (fun n c => n ||| letterBits c) 0
    some (⟨op, if ls.contains 'X' then .execution else .bits, affected, value,
      if affected ≠ 0 then affected &&& value else value⟩, rest.drop ls.length)

def clauses : Nat → List Char → Option (List Change)
  | 0, _ => none
  | fuel + 1, cs => do
    let who := cs.takeWhile isClass
    let rest := cs.drop who.length
    if !rest.head?.any isOperator then none
    else
      let affected := who.foldl (fun n c => n ||| classBits c) 0
      let (changes, rest) ← operations affected (rest.length + 1) rest
      match rest with
      | [] => some changes
      | ',' :: rest => do
        let more ← clauses fuel rest
        some (changes ++ more)
      | _ => none

def read? (text : String) : Option (List Change) :=
  let cs := text.toList
  if cs.head?.any isOctal then
    let n := octal cs
    if !cs.all isOctal || n > all then none
    else
      let mentioned := if cs.length < 5 then n &&& 0o7000 ||| 0o777 else all
      some [⟨'=', .bits, all, n, mentioned⟩]
  else clauses (cs.length + 1) cs

def shown (mode : Nat) : String :=
  let three (shift special : Nat) (letter : Char) : List Char :=
    let bits := mode >>> shift
    let x := bits &&& 1 ≠ 0
    let s := mode &&& special ≠ 0
    [if bits &&& 4 ≠ 0 then 'r' else '-', if bits &&& 2 ≠ 0 then 'w' else '-',
      if s then if x then letter else letter.toUpper else if x then 'x' else '-']
  String.ofList (three 6 0o4000 's' ++ three 3 0o2000 's' ++ three 0 0o1000 't')

def octalText (width mode : Nat) : String :=
  let digits := String.ofList (Nat.toDigits 8 mode)
  String.ofList (List.replicate (width - digits.length) '0') ++ digits

end ServerKeeper.Tool.Permission
