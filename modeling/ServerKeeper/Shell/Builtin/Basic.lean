import ServerKeeper.Shell.Redirection

namespace ServerKeeper.Shell

open Host

structure Builtin where
  name : String
  /-- Whether an error in it ends the shell, and assignments in front of it stay. -/
  isSpecial : Bool
  takesAssignments : Bool
  run : Evaluator → Manner → List String → Action Nat

def quotedText (s : String) : String :=
  let parts (cs : List Char) : List (List Char) := cs.splitBy fun a b => (a == '\'') == (b == '\'')
  let shown (cs : List Char) : String :=
    if cs.head? = some '\'' then "\"" ++ String.ofList cs ++ "\""
      else "'" ++ String.ofList cs ++ "'"
  let start := if s.isEmpty || s.startsWith "'" then "''" else ""
  start ++ String.join ((parts s.toList).map shown)

namespace Action

def print (text : String) : Action Unit := do
  if !(← write 1 text) then modify fun s => { s with isOutputLost := true }

def tell (text : String) : Action Unit := do
  let _ ← write 2 text

def natural (text : String) : Action Nat := do
  let cs := text.toList.dropWhile Arithmetic.isSpace
  let digits :=
    match cs with
    | '+' :: cs => cs
    | cs => cs
  let ds := digits.takeWhile Char.isDigit
  match (String.ofList ds).toNat? with
  | some n =>
    if (digits.drop ds.length).all Arithmetic.isSpace && n ≤ 2147483647 then return n
    else fail ("Illegal number: " ++ text)
  | none =>
    match cs with
    | ['-', '0'] => return 0
    | _ => fail ("Illegal number: " ++ text)

/-- The options in front of arguments. A letter in `spec` that a colon follows has a value. -/
def optionsOf (spec : String) :
    Nat → List String → List (Char × String) → Action (List (Char × String) × List String)
  | 0, arguments, found => return (found.reverse, arguments)
  | fuel + 1, arguments, found => do
    match arguments with
    | [] => return (found.reverse, [])
    | first :: rest =>
      match first.toList with
      | ['-', '-'] => return (found.reverse, rest)
      | '-' :: c :: cs =>
        let rec go : List Char → List (Char × String) →
            Action (List (Char × String) × Option Char)
          | [], found => return (found, none)
          | c :: cs, found => do
            let takesValue := (spec.splitOn (String.ofList [c, ':'])).length > 1
            if c = ':' || !spec.contains c then fail ("Illegal option -" ++ c.toString)
            else if takesValue then
              if cs.isEmpty then return (found, some c)
              else return ((c, String.ofList cs) :: found, none)
            else go cs ((c, "") :: found)
        let (found, wanting) ← go (c :: cs) found
        match wanting, rest with
        | none, rest => optionsOf spec fuel rest found
        | some c, value :: rest => optionsOf spec fuel rest ((c, value) :: found)
        | some c, [] => fail ("No arg for -" ++ c.toString ++ " option")
      | _ => return (found.reverse, arguments)

def options (spec : String) (arguments : List String) :
    Action (List (Char × String) × List String) :=
  optionsOf spec (arguments.length + 1) arguments []

def withoutOptions (arguments : List String) : Action (List String) := do
  return (← options "" arguments).2

end Action

end ServerKeeper.Shell
