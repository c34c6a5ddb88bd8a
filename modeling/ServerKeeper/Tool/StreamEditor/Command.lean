import ServerKeeper.Regex.Reading

namespace ServerKeeper.Tool.StreamEditor

open Regex (Compiled)

abbrev Expression := Option Compiled

inductive Address
  | zero
  | line (n : Nat)
  | every (first step : Nat)
  | last
  | fits (e : Expression)

inductive Limit
  | line (n : Nat)
  | last
  | fits (e : Expression)
  | further (n : Nat)
  | multiple (n : Nat)

structure Range where
  first : Option Address
  last : Option Limit
  isNegated : Bool

inductive CaseChange
  | upper
  | lower
  | upperNext
  | lowerNext
  | stop
  deriving DecidableEq

inductive Part
  | text (s : String)
  | group (n : Nat)
  | change (c : CaseChange)

structure Substitution where
  expression : Expression
  parts : List Part
  nth : Nat
  isGlobal : Bool
  prints : Bool
  /-- Whether the outcome is a command for the shell, whose output takes its place. -/
  executes : Bool
  file : Option String

inductive Action
  | openBlock (close : Nat)
  | closeBlock
  | nothing
  | append (text : String)
  | insert (text : String)
  | change (text : String)
  | branch (ifReplaced : Option Bool) (target : Nat)
  | delete
  | deleteLine
  | execute (command : String)
  | fileName
  | getHeld
  | addHeld
  | hold
  | holdMore
  | list (width : Option Nat)
  | next
  | appendNext
  | print
  | printLine
  | quit (status : Nat) (isSilent : Bool)
  | readFile (path : String)
  | readLineOf (path : String)
  | substitute (s : Substitution)
  | writeAll (path : String)
  | writeLine (path : String)
  | exchange
  | transliterate (pairs : List (Char × Char))
  | zap
  | number

inductive Activity
  | outside
  /-- Inside of a range; the number of the last line, where that is counted from the first one. -/
  | inside (last : Nat)
  | behind
  deriving DecidableEq

structure Command where
  range : Range
  action : Action

structure Script where
  commands : Array Command
  outputs : List String
  isQuiet : Bool

def Script.activities (s : Script) : Array Activity :=
  s.commands.map fun c =>
    match c.range.first with
    | some .zero => .inside 0
    | _ => .outside

end ServerKeeper.Tool.StreamEditor
