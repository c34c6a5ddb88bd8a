import ServerKeeper.Shell.Builtin.Basic
import ServerKeeper.Shell.Condition
import ServerKeeper.Shell.Format

namespace ServerKeeper.Shell.Builtin

open Action Host

def logicalPath (place path : String) : String :=
  let start := if path.startsWith "/" then [] else Path.segments place
  let go (names : List String) (name : String) : List String :=
    if name == "." then names else if name == ".." then names.drop 1 else name :: names
  let names := ((Path.segments path).foldl go start.reverse).reverse
  let doubled := path.startsWith "//" && !path.startsWith "///" ||
    !path.startsWith "/" && place.startsWith "//"
  (if doubled then "//" else "/") ++ "/".intercalate names

def settle (path : Option String) (keepsOld : Bool) : Action Unit := do
  let old := (← get).place
  let path ← match path with
    | some path => pure path
    | none => do pure ((← ask .here).getD old)
  if keepsOld then assign "OLDPWD" old true
  modify fun s => { s with place := path }
  assign "PWD" path true

def goTo (physical : Bool) (path : String) : Action Bool := do
  let place := (← get).place
  let full := if physical || place.isEmpty then path else logicalPath place path
  match ← ask (.changeDirectory full) with
  | .error _ => return false
  | .ok () =>
    settle (if physical then none else some full) true
    return true

/-- Looks for a directory below those of a search path. Gives it as it is found, and whether the
search path was of use. -/
def searchDirectory (path : String) : List String → Action (Option (String × Bool))
  | [] => return none
  | above :: rest => do
    let full := if above.isEmpty then path else above ++ "/" ++ path
    match ← ask (.status full true) with
    | .ok status =>
      if status.content.isDirectory then return some (full, !above.isEmpty)
      else searchDirectory path rest
    | .error _ => searchDirectory path rest

def isAnchored (path : String) : Bool :=
  path.startsWith "/" || path == "." || path.startsWith "./" || path == ".." ||
    path.startsWith "../"

def cd : Evaluator → Manner → List String → Action Nat := fun _ _ arguments => do
  let (found, arguments) ← options "LP" arguments
  let physical := (found.getLast?.map (·.1)) = some 'P'
  let s ← get
  let (path, shows) :=
    match arguments.head? with
    | none => ((s.value? "HOME").getD "", false)
    | some "-" => ((s.value? "OLDPWD").getD "", true)
    | some path => (path, false)
  let found ← match isAnchored path, s.value? "CDPATH" with
    | false, some places =>
      searchDirectory (if path.isEmpty then "." else path) (places.splitOn ":")
    | _, _ => pure none
  let (full, shows) := (found.map fun (full, isUseful) => (full, shows || isUseful)).getD
    (path, shows)
  if ← goTo physical (if full.isEmpty then "." else full) then
    if shows then print ((← get).place ++ "\n")
    return 0
  else fail ("can't cd to " ++ path)

def pwd : Evaluator → Manner → List String → Action Nat := fun _ _ arguments => do
  let (found, _) ← options "LP" arguments
  if (found.getLast?.map (·.1)) = some 'P' then
    print ((← ask .here).getD (← get).place ++ "\n")
  else print ((← get).place ++ "\n")
  return 0

def modeLetters (bits : Nat) : String :=
  (if bits &&& 4 ≠ 0 then "r" else "") ++ (if bits &&& 2 ≠ 0 then "w" else "") ++
    (if bits &&& 1 ≠ 0 then "x" else "")

def octalText (width n : Nat) : String :=
  let digits := String.ofList (Nat.toDigits 8 n)
  String.ofList (List.replicate (width - digits.length) '0') ++ digits

/-- What letters of a permission stand for, for everyone; some stand for what others have. -/
def permissionBits (mode : Nat) : List Char → Option Nat
  | [] => some 0
  | c :: cs => do
    let here ← match c with
      | 'r' => some 0o444
      | 'w' => some 0o222
      | 'x' => some 0o111
      | 'X' => some (if mode &&& 0o111 ≠ 0 then 0o111 else 0)
      | 's' | 't' => some 0
      | 'u' => some (((mode >>> 6) &&& 7) * 0o111)
      | 'g' => some (((mode >>> 3) &&& 7) * 0o111)
      | 'o' => some ((mode &&& 7) * 0o111)
      | _ => none
    return here ||| (← permissionBits mode cs)

def applyOperators (who : Nat) : Nat → List Char → Nat → Option Nat
  | 0, _, mode | _, [], mode => some mode
  | fuel + 1, op :: rest, mode => do
    let letters := rest.takeWhile fun c => c ≠ '+' && c ≠ '-' && c ≠ '='
    let bits := (← permissionBits mode letters) &&& who
    let mode ← match op with
      | '+' => some (mode ||| bits)
      | '-' => some (mode &&& (0o777 ^^^ bits))
      | '=' => some ((mode &&& (0o777 ^^^ who)) ||| bits)
      | _ => none
    applyOperators who fuel (rest.drop letters.length) mode

def applyClause (mode : Nat) (clause : List Char) : Option Nat := do
  let who := clause.takeWhile fun c => "ugoa".contains c
  let bits := who.foldl (fun n c =>
    n ||| (match c with | 'u' => 0o700 | 'g' => 0o070 | 'o' => 0o007 | _ => 0o777)) 0
  let rest := clause.drop who.length
  if rest.isEmpty then none
  else applyOperators (if who.isEmpty then 0o777 else bits) (rest.length + 1) rest mode

def symbolicMode (mode : Nat) (text : String) : Option Nat :=
  (text.splitOn ",").foldlM (fun mode clause => applyClause mode clause.toList) mode

def umask : Evaluator → Manner → List String → Action Nat := fun _ _ arguments => do
  let (found, arguments) ← options "S" arguments
  let mask ← ask (.setMask 0)
  let _ ← ask (.setMask mask)
  match arguments.head? with
  | none =>
    if found.isEmpty then print (octalText 4 mask ++ "\n")
    else
      let part (shift : Nat) : String := modeLetters (((0o777 ^^^ mask) >>> shift) &&& 7)
      print ("u=" ++ part 6 ++ ",g=" ++ part 3 ++ ",o=" ++ part 0 ++ "\n")
  | some text =>
    let new ← if (text.toList.head?).any Char.isDigit then
        if text.all Format.isOctal then
          pure (text.foldl (fun n c => 8 * n + (c.toNat - 48)) 0)
        else fail ("Illegal number: " ++ text)
      else
        match symbolicMode (0o777 ^^^ (mask &&& 0o777)) text with
        | some mode => pure (0o777 ^^^ mode)
        | none => fail ("Illegal mode: " ++ text)
    let _ ← ask (.setMask (new &&& 0o777))
  return 0

def decided (ws : List String) : Action Nat := do
  match ← ExceptT.lift (StateT.lift (Condition.verdict ws)) with
  | .ok b => return if b then 0 else 1
  | .error text => fail text

def test : Evaluator → Manner → List String → Action Nat := fun _ _ arguments => decided arguments

def bracketedTest : Evaluator → Manner → List String → Action Nat := fun _ _ arguments => do
  if arguments.getLast? = some "]" then decided arguments.dropLast else fail "missing ]"

def echo : Evaluator → Manner → List String → Action Nat := fun _ _ arguments => do
  print (Format.echo arguments)
  return 0

def printf : Evaluator → Manner → List String → Action Nat := fun _ _ arguments => do
  match ← withoutOptions arguments with
  | [] => fail "usage: printf format [arg ...]"
  | format :: arguments =>
    let p := Format.printf format arguments
    for text in p.complaints do complain text
    match p.fault with
    | some text =>
      complain text
      print p.text
      setStatus 2
      throw .error
    | none =>
      print p.text
      return if p.complaints.isEmpty then 0 else 1

def placeBuiltins : List Builtin :=
  [⟨"cd", false, false, cd⟩, ⟨"chdir", false, false, cd⟩, ⟨"pwd", false, false, pwd⟩,
   ⟨"umask", false, false, umask⟩, ⟨"test", false, false, test⟩,
   ⟨"[", false, false, bracketedTest⟩, ⟨"echo", false, false, echo⟩,
   ⟨"printf", false, false, printf⟩]

end ServerKeeper.Shell.Builtin
