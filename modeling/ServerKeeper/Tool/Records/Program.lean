import ServerKeeper.Regex.Machine

namespace ServerKeeper.Tool.Records

inductive Operation
  | add
  | subtract
  | multiply
  | divide
  | remainder
  | power
  deriving DecidableEq

inductive Relation
  | less
  | notGreater
  | equal
  | notEqual
  | notLess
  | greater
  deriving DecidableEq

inductive Name
  | overall (index : Nat)
  | local (index : Nat)
  deriving DecidableEq

instance : Inhabited Name := ⟨.overall 0⟩

inductive Expression
  | number (x : Float)
  | text (s : String)
  | regex (r : Regex.Compiled)
  | variable (n : Name)
  | element (n : Name) (keys : List Expression)
  | field (index : Expression)
  | group (e : Expression)
  | tuple (es : List Expression)
  | assign (target : Expression) (operation : Option Operation) (value : Expression)
  /-- Adds to a number in place. The value is the one before, or the one after that. -/
  | step (target : Expression) (change : Float) (isBefore : Bool)
  | arithmetic (operation : Operation) (a b : Expression)
  | compare (r : Relation) (a b : Expression)
  | fits (isNegated : Bool) (a b : Expression)
  | both (a b : Expression)
  | either (a b : Expression)
  | negation (a : Expression)
  | minus (a : Expression)
  | plus (a : Expression)
  | join (a b : Expression)
  | choice (c a b : Expression)
  | contains (keys : List Expression) (n : Name)
  | call (function : Nat) (arguments : List Expression)
  | builtin (name : String) (arguments : List Expression)
  | size (n : Name)
  | split (text : Expression) (target : Name) (separator : Option Expression)
  | replace (isGlobal : Bool) (pattern replacement : Expression) (target : Expression)
  | readMain (target : Option Expression)
  | readFile (target : Option Expression) (path : Expression)
  | readCommand (target : Option Expression) (command : Expression)

instance : Inhabited Expression := ⟨.number 0⟩

inductive Direction
  | toFile
  | toEnd
  | toCommand
  deriving DecidableEq

inductive Statement
  | evaluate (e : Expression)
  | print (es : List Expression) (direction : Option (Direction × Expression))
  | printf (es : List Expression) (direction : Option (Direction × Expression))
  | block (ss : List Statement)
  | choice (c : Expression) (a : Statement) (b : Option Statement)
  | loop (c : Expression) (body : Statement)
  | loopOnce (body : Statement) (c : Expression)
  | count (start : Option Expression) (c : Option Expression) (next : Option Expression)
      (body : Statement)
  | each (target : Expression) (array : Name) (body : Statement)
  | delete (n : Name) (keys : List Expression)
  | clear (n : Name)
  | leave
  | goOn
  | next
  | nextFile
  | exit (status : Option Expression)
  | give (value : Option Expression)

instance : Inhabited Statement := ⟨.leave⟩

inductive Pattern
  | atStart
  | atEnd
  | always
  | fits (e : Expression)
  | range (first last : Expression) (number : Nat)

structure Rule where
  pattern : Pattern
  body : Option (List Statement)

structure Function where
  name : String
  parameters : Nat
  arrays : List Bool
  body : List Statement

instance : Inhabited Function := ⟨⟨"", 0, [], []⟩⟩

structure Program where
  rules : List Rule
  functions : Array Function
  names : Array String
  arrays : Array Bool
  ranges : Nat

def knownNames : List String :=
  ["NR", "FNR", "NF", "FS", "OFS", "ORS", "RS", "FILENAME", "SUBSEP", "RSTART", "RLENGTH",
   "CONVFMT", "OFMT", "ENVIRON", "ARGV", "ARGC"]

def known (name : String) : Nat := (knownNames.idxOf? name).getD 0

end ServerKeeper.Tool.Records
