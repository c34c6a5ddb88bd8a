namespace ServerKeeper.Shell

inductive Treatment
  | plain
  | length
  | otherwise
  | assign
  | insist
  | instead
  | cutStart (longest : Bool)
  | cutEnd (longest : Bool)
  | always
  | unknown

inductive FileUse
  | read
  | write
  | overwrite
  | append
  | both

mutual

inductive Part
  | text (s : String) (quoted : Bool)
  | parameter (name : String) (treatment : Treatment) (orEmpty : Bool) (word : List Part)
      (quoted : Bool)
  | arithmetic (expression : List Part) (quoted : Bool)
  | output (body : Command) (quoted : Bool)

inductive Redirect
  | file (fd : Nat) (use : FileUse) (name : List Part)
  | copy (fd : Nat) (source : List Part)
  | document (fd number : Nat)

inductive Command
  | nothing
  | simple (line : Nat) (assignments : List (String × List Part)) (words : List (List Part))
      (redirects : List Redirect)
  | negated (c : Command)
  | pipeline (commands : List Command) (inBackground : Bool)
  | both (first second : Command)
  | either (first second : Command)
  | sequence (first second : Command)
  | conditional (test yes no : Command)
  | loop (untilTrue : Bool) (test body : Command)
  | each (line : Nat) (name : String) (words : List (List Part)) (body : Command)
  | choose (line : Nat) (subject : List Part) (arms : List (List (List Part) × Command))
  | redirected (line : Nat) (body : Command) (redirects : List Redirect)
  | subshell (line : Nat) (body : Command) (redirects : List Redirect)
  | background (line : Nat) (body : Command) (redirects : List Redirect)
  | define (line : Nat) (name : String) (body : Command)

end

abbrev Word := List Part

namespace Part

def bareText? : Word → Option String
  | [.text s false] => some s
  | _ => none

end Part

end ServerKeeper.Shell
