import ServerKeeper.Tool.Job

namespace ServerKeeper.Tool

open Host

def isLeadingBlank (c : Char) : Bool := c = ' ' || '\t' ≤ c && c ≤ '\r'

def natural? (text : String) : Option Nat :=
  let cs := text.toList.dropWhile isLeadingBlank
  let ds := if cs.head? = some '+' then cs.drop 1 else cs
  if ds.all Char.isDigit then (String.ofList ds).toNat? else none

def integer? (text : String) : Option Int :=
  match text.toList.dropWhile isLeadingBlank with
  | '-' :: ds =>
    if ds.all Char.isDigit then (String.ofList ds).toNat?.map fun n => -(n : Int) else none
  | _ => (natural? text).map Int.ofNat

def powerLetters : List Char := "KMGTPEZYRQ".toList

def power? (c : Char) : Option Nat :=
  let c := if "kmgt".contains c then c.toUpper else c
  (powerLetters.idxOf? c).map (· + 1)

def multiplier? : List Char → Option Nat
  | [] | ['c'] => some 1
  | ['b'] => some 512
  | ['B'] => some 1024
  | ['w'] => some 2
  | [c] | [c, 'i', 'B'] => (power? c).map fun p => Nat.pow 1024 p
  | [c, 'B'] | [c, 'D'] => (power? c).map fun p => Nat.pow 1000 p
  | _ => none

inductive SizeFault
  | invalid
  | tooLarge

def wordLimit : Nat := Nat.pow 2 64

def readSize (suffixes : String) (text : String) : Except SizeFault Nat := do
  let cs := text.toList.dropWhile isLeadingBlank
  let cs := if cs.head? = some '+' then cs.drop 1 else cs
  let ds := cs.takeWhile Char.isDigit
  let (n, rest) := if ds.isEmpty then (1, text.toList) else (digitsValue ds, cs.drop ds.length)
  if ds.isEmpty && rest.isEmpty then throw .invalid
  if rest.head?.any fun c => !suffixes.contains c then throw .invalid
  match multiplier? rest with
  | none => throw .invalid
  | some m => if n * m < wordLimit then return n * m else throw .tooLarge
where
  digitsValue (ds : List Char) : Nat := ds.foldl (fun n c => 10 * n + (c.toNat - 48)) 0

def usualSuffixes : String := "bkKmMGTPEZYRQ"

namespace Job

def outOfBounds {α : Type} (complaint text : String) (isHuge : Bool) : Job α :=
  fail (complaint ++ ": " ++ ShownPath.literal text ++ ": " ++
    (if isHuge then "Value too large for defined data type" else "Numerical result out of range"))

def numberWithin (complaint text : String) (least most : Int) : Job Int := do
  match integer? text with
  | none => fail (complaint ++ ": " ++ ShownPath.literal text)
  | some n =>
    if least ≤ n && n ≤ most then return n
    else outOfBounds complaint text (n < -(Nat.pow 2 30 : Int) || Nat.pow 2 30 ≤ n)

def sizeOf (complaint suffixes text : String) : Job Nat := do
  match readSize suffixes text with
  | .ok n => return n
  | .error .invalid => fail (complaint ++ ": " ++ ShownPath.literal text)
  | .error .tooLarge => outOfBounds complaint text true

/-- One of some choices, by a name that may be cut short. Names for the same choice stand side by
side. -/
def choice {α : Type} [BEq α] (misuse : Job α) (option : String) (choices : List (String × α))
    (text : String) : Job α := do
  let found := (choices.filter (·.1.startsWith text)).map (·.2)
  match choices.lookup text, found with
  | some x, _ => return x
  | none, x :: others =>
    if others.all (· == x) then return x else refuse "ambiguous"
  | none, [] => refuse "invalid"
where
  shown : List (String × α) → Option α → String
    | [], _ => "\n"
    | (name, x) :: rest, before =>
      (if before.any (· == x) then ", '" ++ name ++ "'" else "\n  - '" ++ name ++ "'") ++
        shown rest (some x)
  refuse (what : String) : Job α := do
    tell ((← get).name ++ ": " ++ what ++ " argument " ++ ShownPath.literal text ++ " for '" ++
      option ++ "'\nValid arguments are:" ++ shown choices none)
    misuse

end Job

end ServerKeeper.Tool
