import ServerKeeper.Shell.Format
import ServerKeeper.Tool.Finding.Criterion
import ServerKeeper.Tool.Listing

namespace ServerKeeper.Tool.Finding

open Job Host

/-- A place in a search: its path, where the search began, how deep it is, and what is known of it.
-/
structure Place where
  path : String
  start : String
  depth : Nat
  status : FileStatus

def trimmed (path : String) : String :=
  let cs := path.toList.reverse.dropWhile (· = '/')
  if cs.isEmpty && !path.isEmpty then "/" else String.ofList cs.reverse

def lastPart (path : String) : String :=
  let whole := trimmed path
  if whole == "/" then "/" else ((whole.splitOn "/").getLast?).getD ""

def directoryOf (path : String) : String :=
  match (path.splitOn "/").dropLast with
  | [] => "."
  | parts => "/".intercalate parts

def Place.inner (p : Place) : String :=
  let rest := (p.path.drop p.start.length).toString
  if rest.startsWith "/" then (rest.drop 1).toString else rest

def kindOf (s : FileStatus) : Char :=
  match s.content with
  | .file _ => 'f'
  | c => kindLetter c

def two (n : Nat) : String := if n < 10 then "0" ++ toString n else toString n

def fraction (m : Moment) : String :=
  let digits := toString (m.fmod 1000000000).toNat
  "." ++ String.ofList (List.replicate (9 - digits.length) '0') ++ digits ++ "0"

def timeText (m : Moment) (letter : Char) : String :=
  let p := Calendar.parts m 0 "UTC"
  let whole (format : String) : String := Calendar.text format p
  match letter with
  | '@' => toString (m.fdiv 1000000000) ++ fraction m
  | 'S' => whole "%S" ++ fraction m
  | 'T' | 'X' => whole "%T" ++ fraction m
  | '+' => whole "%F+%T" ++ fraction m
  | c => whole ("%" ++ c.toString)

def fullTime (m : Moment) : String :=
  let p := Calendar.parts m 0 "UTC"
  Calendar.text "%a %b %e %T" p ++ fraction m ++ " " ++ Calendar.text "%Y" p

def fact? (p : Place) (otherKind : Char) (c : Char) : Option (String ⊕ (Nat × Nat)) :=
  let s := p.status
  match c with
  | 'p' => some (.inl p.path)
  | 'f' =>
    let name := lastPart p.path
    some (.inl (if p.depth = 0 && p.path.endsWith "/" && name != "/" then name ++ "/" else name))
  | 'h' =>
    let place := directoryOf (trimmed p.path)
    let place := if p.depth = 0 && p.path.endsWith "/" then trimmed p.path else place
    some (.inl (if p.path == "/" then "" else if place.isEmpty then "" else place))
  | 'P' => some (.inl p.inner)
  | 'H' => some (.inl p.start)
  | 's' => some (.inl (toString s.content.size))
  | 'm' => some (.inr (8, s.mode))
  | 'M' => some (.inl (modeText s))
  | 'd' => some (.inr (10, p.depth))
  | 'l' =>
    match s.content with
    | .link target => some (.inl target)
    | _ => some (.inl "")
  | 'n' => some (.inl (toString s.links))
  | 'i' => some (.inl (toString s.number))
  | 'u' => some (.inl (User.shown s.owner))
  | 'g' => some (.inl (Group.shown s.group))
  | 'U' => some (.inl (toString s.owner))
  | 'G' => some (.inl (toString s.group))
  | 'y' => some (.inl (kindOf s).toString)
  | 'Y' => some (.inl otherKind.toString)
  | 'k' => some (.inl (toString ((blocksOf s + 1) / 2)))
  | 'b' => some (.inl (toString (blocksOf s)))
  | 'D' => some (.inl "64")
  | 'F' => some (.inl "ext4")
  | 'S' => some (.inl "1")
  | 'Z' => some (.inl "")
  | 'a' => some (.inl (fullTime s.accessed))
  | 'c' => some (.inl (fullTime s.changed))
  | 't' => some (.inl (fullTime s.modified))
  | _ => none

def stampOf? (c : Char) : Option (FileStatus → Moment) :=
  match c with
  | 'A' => some (·.accessed)
  | 'C' => some (·.changed)
  | 'T' => some (·.modified)
  | _ => none

def formatted (p : Place) (otherKind : Char) : Nat → List Char → String
  | 0, _ | _, [] => ""
  | fuel + 1, '%' :: rest =>
    let go := formatted p otherKind fuel
    let flags := rest.takeWhile fun c => "#-+ 0".contains c
    let after := rest.drop flags.length
    let width := after.takeWhile Char.isDigit
    let after := after.drop width.length
    let (precision, after) :=
      match after with
      | '.' :: more =>
        let ds := more.takeWhile Char.isDigit
        (some (((String.ofList ds).toNat?).getD 0), more.drop ds.length)
      | after => (none, after)
    let l : Shell.Format.Layout := ⟨flags, ((String.ofList width).toNat?).getD 0, precision⟩
    match after with
    | '%' :: more => "%" ++ go more
    | c :: more =>
      match stampOf? c, more with
      | some stamp, letter :: more =>
        String.ofList (l.text (timeText (stamp p.status) letter).toList) ++ go more
      | _, _ =>
        match fact? p otherKind c with
        | some (.inl text) => String.ofList (l.text text.toList) ++ go more
        | some (.inr (8, n)) => String.ofList (l.unsigned 'o' n) ++ go more
        | some (.inr (_, n)) => String.ofList (l.signed n) ++ go more
        | none => "%" ++ c.toString ++ go more
    | [] => "%"
  | _ + 1, '\\' :: 'c' :: _ => ""
  | fuel + 1, '\\' :: rest =>
    let digits := (rest.take 3).takeWhile fun c => '0' ≤ c && c ≤ '7'
    if !digits.isEmpty then
      (Char.ofNat (Permission.octal digits % 256)).toString ++
        formatted p otherKind fuel (rest.drop digits.length)
    else
      match rest with
      | c :: more =>
        let known := [('a', "\x07"), ('b', "\x08"), ('f', "\x0c"), ('n', "\n"), ('r', "\r"),
          ('t', "\t"), ('v', "\x0b"), ('\\', "\\")]
        ((known.lookup c).getD ("\\" ++ c.toString)) ++ formatted p otherKind fuel more
      | [] => "\\"
  | fuel + 1, c :: rest => c.toString ++ formatted p otherKind fuel rest

def formatFaults : Nat → List Char → List (Bool × String)
  | 0, _ | _, [] => []
  | fuel + 1, '%' :: rest =>
    match rest.dropWhile fun c => "#-+ 0.".contains c || c.isDigit with
    | [] => [(true, "error: % at end of format string")]
    | '%' :: more => formatFaults fuel more
    | c :: more =>
      if (stampOf? c).isSome then formatFaults fuel (more.drop 1)
      else if "pfhPHsmMdlniugUGyYkbDFSZact".contains c then formatFaults fuel more
      else
        (false, "warning: unrecognized format directive \x60%" ++ c.toString ++ "'") ::
          formatFaults fuel more
  | _ + 1, '\\' :: 'c' :: _ => []
  | fuel + 1, '\\' :: c :: more =>
    if "abfnrtv\\01234567".contains c then formatFaults fuel more
    else
      (false, "warning: unrecognized escape \x60\\" ++ c.toString ++ "'") :: formatFaults fuel more
  | _ + 1, ['\\'] => [(false, "warning: escape \x60\\' followed by nothing at all")]
  | fuel + 1, _ :: rest => formatFaults fuel rest

def shownName (name : String) : String := String.join (name.toList.map (escapedName · true))

def line (now : Moment) (p : Place) : String :=
  let s := p.status
  let halfYear : Int := 31556952 / 2 * 1000000000
  let isRecent := now - halfYear < s.modified && s.modified ≤ now + 3600000000000
  let format := if isRecent then "%b %e %H:%M" else "%b %e  %Y"
  let time := Calendar.text format (Calendar.parts s.modified 0 "UTC")
  rightAligned 9 (toString s.number) ++ " " ++ rightAligned 6 (toString ((blocksOf s + 1) / 2)) ++
    " " ++ modeText s ++ " " ++ rightAligned 3 (toString s.links) ++ " " ++
    leftAligned 8 (User.shown s.owner) ++ " " ++ leftAligned 8 (Group.shown s.group) ++ " " ++
    rightAligned 8 (toString s.content.size) ++ " " ++ time ++ " " ++ shownName p.path ++
    (match s.content with
    | .link target => " -> " ++ shownName target
    | _ => "") ++ "\n"

end ServerKeeper.Tool.Finding
