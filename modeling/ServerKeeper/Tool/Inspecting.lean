import ServerKeeper.Tool.Listing

namespace ServerKeeper.Tool.Inspecting

open Job Host
open ShownPath (quoted)

inductive Fact
  | text (t : String)
  | number (base : Nat) (n : Int)
  | time (m : Moment)

def timeText (m : Moment) : String :=
  Calendar.text "%Y-%m-%d %H:%M:%S.%N %z" (Calendar.parts m 0 "UTC")

def fact? (path : String) (s : FileStatus) (c : Char) : Option Fact :=
  match c with
  | 'n' => some (.text path)
  | 'N' =>
    some (.text (quoted path ++
      match s.content with
      | .link target => " -> " ++ quoted target
      | _ => ""))
  | 'a' => some (.number 8 s.mode)
  | 'A' => some (.text (modeText s))
  | 'b' => some (.number 10 (blocksOf s))
  | 'B' => some (.number 10 512)
  | 'd' => some (.number 10 64)
  | 'D' => some (.number 16 64)
  | 'f' => some (.number 16 (rawMode s))
  | 'F' => some (.text (Making.kindText s))
  | 'g' => some (.number 10 s.group)
  | 'u' => some (.number 10 s.owner)
  | 'G' => some (.text ((Group.name? s.group).getD "UNKNOWN"))
  | 'U' => some (.text (((User.numbered? s.owner).map (·.name)).getD "UNKNOWN"))
  | 'h' => some (.number 10 s.links)
  | 'i' => some (.number 10 s.number)
  | 'm' => some (.text "/")
  | 'o' => some (.number 10 4096)
  | 's' => some (.number 10 s.content.size)
  | 't' | 'T' => some (.number 16 0)
  | 'w' => some (.text "-")
  | 'W' => some (.number 10 0)
  | 'x' => some (.text (timeText s.accessed))
  | 'y' => some (.text (timeText s.modified))
  | 'z' => some (.text (timeText s.changed))
  | 'X' => some (.time s.accessed)
  | 'Y' => some (.time s.modified)
  | 'Z' => some (.time s.changed)
  | 'C' => some (.text "?")
  | _ => none

structure Manner where
  flags : List Char
  width : Nat
  precision : Option (Option Nat)

def Manner.layout (m : Manner) (flags : String) : Shell.Format.Layout :=
  ⟨m.flags.filter fun c => flags.contains c, m.width, m.precision.map (·.getD 0)⟩

def secondsText (m : Moment) (places : Nat) : String :=
  let digits := Calendar.filled '0' 9 (toString (m.fmod 1000000000).toNat)
  let fraction := (digits.take places).toString ++ String.ofList (List.replicate (places - 9) '0')
  toString (m.fdiv 1000000000) ++ if places = 0 then "" else "." ++ fraction

def Fact.shown (m : Manner) : Fact → String
  | .text t => String.ofList ((m.layout "-").text t.toList)
  | .number 10 n => String.ofList ((m.layout "-0").signed n)
  | .number base n =>
    String.ofList ((m.layout "-#0").unsigned (if base = 8 then 'o' else 'x') n.toNat)
  | .time t =>
    match m.precision with
    | none => String.ofList ((m.layout "-+ 0").signed (t.fdiv 1000000000))
    | some places? =>
      let plain : Shell.Format.Layout := { m.layout "-" with precision := none }
      String.ofList (plain.text (secondsText t (places?.getD 9)).toList)

def readManner (cs : List Char) : Manner × List Char × List Char :=
  let number (ds : List Char) : Option Nat := (String.ofList ds).toNat?
  let flags := cs.takeWhile fun c => "'-+ #0I".contains c
  let rest := cs.drop flags.length
  let width := rest.takeWhile Char.isDigit
  let rest := rest.drop width.length
  let (precision, rest) :=
    match rest with
    | '.' :: more =>
      let ds := more.takeWhile Char.isDigit
      (some (number ds), more.drop ds.length)
    | rest => (none, rest)
  (⟨flags, (number width).getD 0, precision⟩, cs.take (cs.length - rest.length), rest)

/-- The character of an escape whose backslash was read, if there is one, and what follows it. -/
def escape (cs : List Char) : Option Char × List Char :=
  match cs with
  | 'x' :: c :: more =>
    let ds := ((c :: more).take 2).takeWhile Decimal.Scanned.isHex
    if ds.isEmpty then (none, cs)
    else (some (Char.ofNat (Decimal.Scanned.hexNumber ds)), (c :: more).drop ds.length)
  | '"' :: more => (some '"', more)
  | c :: _ =>
    if (Shell.Format.named.lookup c).isSome || Shell.Format.isOctal c then
      let (d, more) := Shell.Format.escape cs
      (some d, more)
    else (none, cs)
  | [] => (none, [])

def printFacts (fact? : Char → Option Fact) (escapes : Bool) : Nat → List Char → Job Unit
  | 0, _ | _, [] => return
  | fuel + 1, '%' :: rest => do
    let (manner, written, after) := readManner rest
    let isPercent := after.head?.all (· = '%')
    if isPercent && !written.isEmpty then
      fail (quoted ("%" ++ String.ofList (written ++ after.take 1)) ++ ": invalid directive")
    else if isPercent then print "%"
    else print ((after.head?.bind fact?).elim "?" (·.shown manner))
    printFacts fact? escapes fuel (after.drop 1)
  | fuel + 1, '\\' :: rest => do
    if !escapes then
      print "\\"
      printFacts fact? escapes fuel rest
    else
      match escape rest, rest with
      | (some c, rest), _ =>
        print c.toString
        printFacts fact? escapes fuel rest
      | (none, _), c :: rest =>
        tell ((← get).name ++ ": warning: unrecognized escape '\\" ++ c.toString ++ "'\n")
        print c.toString
        printFacts fact? escapes fuel rest
      | (none, _), [] =>
        tell ((← get).name ++ ": warning: backslash at end of format\n")
        print "\\"
  | fuel + 1, c :: rest => do
    print c.toString
    printFacts fact? escapes fuel rest

def usualFormat : String :=
  "  File: %N\n  Size: %-10s\tBlocks: %-10b IO Block: %-6o %F\n" ++
    "Device: 0,64\tInode: %-11i Links: %h\n" ++
    "Access: (%04a/%10.10A)  Uid: (%5u/%8U)   Gid: (%5g/%8G)\n" ++
    "Access: %x\nModify: %y\nChange: %z\n Birth: %w"

def terseFormat : String := "%n %s %b %f %u %g %D %i %h %t %T %X %Y %Z %W %o"

def stat : Utility where
  name := "stat"
  operands := "[OPTION]... FILE..."
  work arguments := do
    let t := OptionTable.ofTexts "c:fLt"
      ["dereference L", "file-system f", "format= c", "printf= printf", "terse t", "cached= cached"]
      true 1
    let (found, paths) ← t.parse arguments
    if let some word := Chosen.value? found "cached" then
      let _ ← choice (hint 1) "--cached" [("default", ()), ("never", ()), ("always", ())] word
    if paths.isEmpty then misuse "missing operand"
    let (format, escapes) :=
      match Chosen.last? found ["c", "printf"] with
      | some "c" => ((Chosen.value? found "c").getD "", false)
      | some _ => ((Chosen.value? found "printf").getD "", true)
      | none => (if Chosen.has found "t" then terseFormat else usualFormat, false)
    for path in paths do
      let s ←
        if path == "-" then ask (.statusOf 0) else ask (.status path (Chosen.has found "L"))
      match s with
      | .ok s =>
        printFacts (fact? path s) escapes (format.length + 1) format.toList
        if !escapes then print "\n"
      | .error fault => complain ("cannot statx " ++ quoted path ++ ": " ++ fault.text)

end ServerKeeper.Tool.Inspecting
