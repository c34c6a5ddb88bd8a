import ServerKeeper.Tool.Lines

namespace ServerKeeper.Tool.Repeats

open Job Host
open ShownPath (literal quoted)

structure Likeness where
  fields : Nat
  chars : Nat
  width : Option Nat
  ignoresCase : Bool

namespace Likeness

def isBetweenFields (c : Char) : Bool := isBlank c || c = '\n'

def behindFields : Nat → List Char → List Char
  | _, [] => []
  | 0, cs => cs
  | n + 1, c :: cs =>
    behindFields n (((c :: cs).dropWhile isBetweenFields).dropWhile (!isBetweenFields ·))
termination_by n => n

def key (k : Likeness) (line : String) : String :=
  let cs := (behindFields (min k.fields line.length) line.toList).drop k.chars
  let cs := match k.width with
    | some w => cs.take w
    | none => cs
  String.ofList (if k.ignoresCase then cs.map Char.toLower else cs)

end Likeness

inductive Division
  | none
  | before
  | behind
  | between
  | around
  deriving BEq

inductive Choice
  /-- One line of each group, or none where the group has one line, or where it has more. -/
  | one (showsSingle showsRepeated isCounted : Bool)
  /-- The lines of all groups that have more than one, or all of them but the last. -/
  | repeated (division : Division) (leavesLast : Bool)
  | all (division : Division)

def groups (k : Likeness) (lines : List String) : List (List String) :=
  let step (acc : List (String × List String)) (l : String) : List (String × List String) :=
    let key := k.key l
    match acc with
    | (last, group) :: rest => if last == key then (key, l :: group) :: rest else (key, [l]) :: acc
    | [] => [(key, [l])]
  ((lines.foldl step []).map fun (_, group) => group.reverse).reverse

def divided (mark : String) (d : Division) (texts : List String) : String :=
  match d with
  | .none => String.join texts
  | .before => String.join (texts.map (mark ++ ·))
  | .behind => mark.intercalate texts ++ if texts.isEmpty then "" else mark
  | .between => mark.intercalate texts
  | .around => String.join (texts.map (mark ++ ·)) ++ if texts.isEmpty then "" else mark

def shown (c : Choice) (mark : String) (groups : List (List String)) : String :=
  let whole (group : List String) : String := String.join (group.map (· ++ mark))
  match c with
  | .all d => divided mark d (groups.map whole)
  | .repeated d leavesLast =>
    let long := groups.filter (·.length > 1)
    divided mark d (long.map fun g => whole (if leavesLast then g.dropLast else g))
  | .one showsSingle showsRepeated isCounted =>
    let text (group : List String) : String :=
      if !(if group.length > 1 then showsRepeated else showsSingle) then ""
      else
        (if isCounted then rightAligned 7 (toString group.length) ++ " " else "") ++
          whole (group.take 1)
    String.join (groups.map text)

def optionTable : OptionTable :=
  .ofTexts "0123456789Dcdf:is:uw:z"
    ["count c", "repeated d", "all-repeated? D", "group? group", "ignore-case i", "unique u",
     "skip-fields= f", "skip-chars= s", "check-chars= w", "zero-terminated z"] true 1

structure Request where
  likeness : Likeness
  isByDigits : Bool
  division : Division
  group? : Option Division
  operands : List String

namespace Request

def number (what text : String) : Job Nat := do
  match natural? text with
  | some n => return n
  | none => fail (text ++ ": invalid number of " ++ what)

def addOperand (r : Request) (text : String) : Job Request := do
  match if text.startsWith "+" then natural? text else none with
  | some n => return { r with likeness := { r.likeness with chars := n } }
  | none =>
    if r.operands.length = 2 then misuse ("extra operand " ++ literal text)
    return { r with operands := r.operands ++ [text] }

def add (r : Request) (key : String) (value : Option String) : Job Request := do
  let text := value.getD ""
  match key with
  | "" => r.addOperand text
  | "f" =>
    let fields ← number "fields to skip" text
    return { r with likeness := { r.likeness with fields }, isByDigits := false }
  | "s" =>
    let chars ← number "bytes to skip" text
    return { r with likeness := { r.likeness with chars } }
  | "w" =>
    let width ← number "bytes to compare" text
    return { r with likeness := { r.likeness with width := some width } }
  | "i" => return { r with likeness := { r.likeness with ignoresCase := true } }
  | "D" =>
    match value with
    | none => return { r with division := .none }
    | some text =>
      let choices := [("none", Division.none), ("prepend", .before), ("separate", .between)]
      let division ← choice (hint 1) "--all-repeated" choices text
      return { r with division }
  | "group" =>
    match value with
    | none => return { r with group? := some .between }
    | some text =>
      let choices := [("prepend", Division.before), ("append", .behind), ("separate", .between),
        ("both", .around)]
      let division ← choice (hint 1) "--group" choices text
      return { r with group? := some division }
  | _ =>
    if key.all Char.isDigit then
      let before := if r.isByDigits then r.likeness.fields else 0
      let fields := 10 * before + key.toNat?.getD 0
      return { r with likeness := { r.likeness with fields }, isByDigits := true }
    else return r

end Request

def printTo (path : String) : Job Unit := do
  if path != "-" then
    match ← ask (.openFile path .toWrite 0o666) with
    | .error fault => fail (about path fault)
    | .ok fd =>
      let _ ← ask (.duplicate fd 1)
      let _ ← ask (.close fd)

def uniq : Utility where
  name := "uniq"
  operands := "[OPTION]... [INPUT [OUTPUT]]"
  work arguments := do
    let found ← optionTable.parseInOrder arguments
    let has := Chosen.has found
    let mut r : Request := ⟨⟨0, 0, none, false⟩, false, .none, none, []⟩
    for (key, value) in found do r ← r.add key value
    if r.group?.isSome && (has "c" || has "d" || has "D" || has "u") then
      misuse "--group is mutually exclusive with -c/-d/-D/-u"
    if has "c" && has "D" then
      misuse "printing all duplicated lines and repeat counts is meaningless"
    let c : Choice :=
      match r.group? with
      | some d => .all d
      | none =>
        if has "D" then .repeated r.division (has "u")
        else .one (!has "d") (!has "u") (has "c")
    let mark := if has "z" then '\x00' else '\n'
    let input := r.operands.headD "-"
    match ← openInput input with
    | .error fault => fail (about input fault)
    | .ok fd =>
      printTo ((r.operands.drop 1).headD "-")
      match ← readRest fd with
      | .error fault => fail ("error reading " ++ quoted input ++ ": " ++ fault.text)
      | .ok text =>
        let lines := (linesBy mark text).map (·.text)
        print (shown c mark.toString (groups r.likeness lines))

end ServerKeeper.Tool.Repeats
