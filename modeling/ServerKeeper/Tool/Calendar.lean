namespace ServerKeeper.Tool.Calendar

structure Date where
  year : Int
  month : Nat
  day : Nat
  deriving DecidableEq, Repr

/-- The number of days from the start of 1970 to a date; a month and a day may be out of range. -/
def dayNumber (year month day : Int) : Int :=
  let m := month - 1
  let year := year + m.fdiv 12
  let m := m.fmod 12 + 1
  let y := if m ≤ 2 then year - 1 else year
  let era := y.fdiv 400
  let ofEra := y - era * 400
  let shifted := (m + 9).fmod 12
  let ofYear := (153 * shifted + 2) / 5
  let dayOfEra := ofEra * 365 + ofEra / 4 - ofEra / 100 + ofYear
  era * 146097 + dayOfEra - 719468 + (day - 1)

def ofDayNumber (n : Int) : Date :=
  let z := n + 719468
  let era := z.fdiv 146097
  let dayOfEra := z - era * 146097
  let ofEra := (dayOfEra - dayOfEra / 1460 + dayOfEra / 36524 - dayOfEra / 146096) / 365
  let ofYear := dayOfEra - (365 * ofEra + ofEra / 4 - ofEra / 100)
  let shifted := (5 * ofYear + 2) / 153
  let day := ofYear - (153 * shifted + 2) / 5 + 1
  let month := if shifted < 10 then shifted + 3 else shifted - 9
  let year := ofEra + era * 400 + if month ≤ 2 then 1 else 0
  ⟨year, month.toNat, day.toNat⟩

def weekday (n : Int) : Nat := ((n + 4).fmod 7).toNat

def dayOfYear (n : Int) : Nat := (n - dayNumber (ofDayNumber n).year 1 1).toNat

/-- The year and the week that a day is part of, where weeks begin with Monday and belong to the
year of their Thursday. -/
def weekDate (n : Int) : Int × Nat :=
  let fromMonday := (weekday n + 6) % 7
  let thursday := n - fromMonday + 3
  let year := (ofDayNumber thursday).year
  (year, dayOfYear thursday / 7 + 1)

def weekdayNames : List String :=
  ["Sunday", "Monday", "Tuesday", "Wednesday", "Thursday", "Friday", "Saturday"]

def monthNames : List String :=
  ["January", "February", "March", "April", "May", "June", "July", "August", "September",
    "October", "November", "December"]

def short (name : String) : String := (name.take 3).toString

structure Parts where
  date : Date
  hour : Nat
  minute : Nat
  second : Nat
  nanosecond : Nat
  dayNumber : Int
  seconds : Int
  offset : Int
  zone : String

def parts (moment : Int) (offset : Int) (zone : String) : Parts :=
  let seconds := moment.fdiv 1000000000
  let shown := seconds + offset
  let day := shown.fdiv 86400
  let rest := (shown - day * 86400).toNat
  ⟨ofDayNumber day, rest / 3600, rest / 60 % 60, rest % 60, (moment.fmod 1000000000).toNat, day,
    seconds, offset, zone⟩

def filled (fill : Char) (width : Nat) (text : String) : String :=
  String.ofList (List.replicate (width - text.length) fill) ++ text

def number (flag : Option Char) (fill : Char) (width : Nat) (n : Int) : String :=
  let fill := match flag with
    | some '_' => ' '
    | some '0' => '0'
    | _ => fill
  let digits := toString n.natAbs
  if flag = some '-' then (if n < 0 then "-" else "") ++ digits
  else if n < 0 then "-" ++ filled fill (width - 1) digits
  else filled fill width digits

def offsetText (colons : Nat) (offset : Int) : String :=
  let sign := if offset < 0 then "-" else "+"
  let n := offset.natAbs
  let two (n : Nat) : String := filled '0' 2 (toString n)
  let h := two (n / 3600)
  let m := two (n / 60 % 60)
  let s := two (n % 60)
  match colons with
  | 0 => sign ++ h ++ m
  | 1 => sign ++ h ++ ":" ++ m
  | 2 => sign ++ h ++ ":" ++ m ++ ":" ++ s
  | _ =>
    if n % 60 ≠ 0 then sign ++ h ++ ":" ++ m ++ ":" ++ s
    else if n / 60 % 60 ≠ 0 then sign ++ h ++ ":" ++ m
    else sign ++ h

def hourOfTwelve (h : Nat) : Nat := if h % 12 = 0 then 12 else h % 12

def composite? (c : Char) : Option String :=
  match c with
  | 'c' => some "%a %b %e %H:%M:%S %Y"
  | 'D' | 'x' => some "%m/%d/%y"
  | 'F' => some "%+4Y-%m-%d"
  | 'r' => some "%I:%M:%S %p"
  | 'R' => some "%H:%M"
  | 'T' | 'X' => some "%H:%M:%S"
  | _ => none

/-- What a directive without parts stands for: a text, or a number with its usual fill and width. -/
def directive? (p : Parts) (c : Char) : Option (String ⊕ (Char × Nat × Int)) :=
  let year := p.date.year
  let name (names : List String) (i : Nat) : String := names.getD i "?"
  match c with
  | 'a' => some (.inl (short (name weekdayNames (weekday p.dayNumber))))
  | 'A' => some (.inl (name weekdayNames (weekday p.dayNumber)))
  | 'b' | 'h' => some (.inl (short (name monthNames (p.date.month - 1))))
  | 'B' => some (.inl (name monthNames (p.date.month - 1)))
  | 'C' => some (.inr ('0', 2, year.fdiv 100))
  | 'd' => some (.inr ('0', 2, p.date.day))
  | 'e' => some (.inr (' ', 2, p.date.day))
  | 'g' => some (.inr ('0', 2, (weekDate p.dayNumber).1.fmod 100))
  | 'G' => some (.inr ('0', 4, (weekDate p.dayNumber).1))
  | 'H' => some (.inr ('0', 2, p.hour))
  | 'I' => some (.inr ('0', 2, hourOfTwelve p.hour))
  | 'j' => some (.inr ('0', 3, dayOfYear p.dayNumber + 1))
  | 'k' => some (.inr (' ', 2, p.hour))
  | 'l' => some (.inr (' ', 2, hourOfTwelve p.hour))
  | 'm' => some (.inr ('0', 2, p.date.month))
  | 'M' => some (.inr ('0', 2, p.minute))
  | 'n' => some (.inl "\n")
  | 'p' => some (.inl (if p.hour < 12 then "AM" else "PM"))
  | 'P' => some (.inl (if p.hour < 12 then "am" else "pm"))
  | 'q' => some (.inr ('0', 1, (p.date.month + 2) / 3))
  | 's' => some (.inr ('0', 1, p.seconds))
  | 'S' => some (.inr ('0', 2, p.second))
  | 't' => some (.inl "\t")
  | 'u' => some (.inr ('0', 1, if weekday p.dayNumber = 0 then 7 else weekday p.dayNumber))
  | 'U' => some (.inr ('0', 2, (dayOfYear p.dayNumber + 7 - weekday p.dayNumber) / 7))
  | 'V' => some (.inr ('0', 2, (weekDate p.dayNumber).2))
  | 'w' => some (.inr ('0', 1, weekday p.dayNumber))
  | 'W' =>
    some (.inr ('0', 2, (dayOfYear p.dayNumber + 7 - (weekday p.dayNumber + 6) % 7) / 7))
  | 'y' => some (.inr ('0', 2, year.fmod 100))
  | 'Y' => some (.inr ('0', 4, year))
  | 'Z' => some (.inl p.zone)
  | '%' => some (.inl "%")
  | _ => none

def cased (flags : List Char) (c : Char) (text : String) : String :=
  if flags.contains '^' then text.toUpper
  else if flags.contains '#' then
    if c = 'p' then text.toLower
    else if c = 'Z' then text.toLower
    else text.toUpper
  else text

def formatted (p : Parts) : Nat → List Char → String
  | 0, _ | _, [] => ""
  | fuel + 1, '%' :: rest =>
    let flags := rest.takeWhile fun c => "-_0+^#".contains c
    let after := rest.drop flags.length
    let digits := after.takeWhile Char.isDigit
    let after := after.drop digits.length
    let colons := (after.takeWhile (· = ':')).length
    let after := after.drop colons
    let after := if after.head?.any fun c => c = 'E' || c = 'O' then after.drop 1 else after
    let width := ((String.ofList digits).toNat?).getD 0
    let flag := flags.reverse.find? fun c => "-_0+".contains c
    match after with
    | [] => "%" ++ String.ofList rest
    | c :: more =>
      let next := formatted p fuel more
      let wide (fill : Char) (text : String) : String :=
        if flag = some '-' then text
        else
          let fill := match flag with
            | some '_' => ' '
            | some '0' | some '+' => '0'
            | _ => fill
          filled fill width text
      if c = 'z' then
        let text := offsetText colons p.offset
        let text :=
          if flag = some '-' || width ≤ text.length then text
          else (text.take 1).toString ++ filled '0' (width - 1) (text.drop 1).toString
        text ++ next
      else if c = 'N' then
        let all := filled '0' 9 (toString p.nanosecond)
        let text :=
          if width > 0 then ((all ++ "".pushn '0' (width - 9)).take width).toString
          else if flag = some '-' then
            let kept := all.toList.reverse.dropWhile (· = '0')
            if kept.isEmpty then "0" else String.ofList kept.reverse
          else all
        text ++ next
      else
        match composite? c with
        | some format => wide ' ' (cased flags c (formatted p fuel format.toList)) ++ next
        | none =>
          match directive? p c with
          | some (.inl text) => wide ' ' (cased flags c text) ++ next
          | some (.inr (fill, least, n)) =>
            let flag := if flag = some '+' then none else flag
            number flag fill (max least width) n ++ next
          | none => "%" ++ String.ofList (rest.take (rest.length - more.length)) ++ next
  | fuel + 1, c :: rest => c.toString ++ formatted p fuel rest

def text (format : String) (p : Parts) : String :=
  formatted p (4 * format.length + 64) format.toList

end ServerKeeper.Tool.Calendar
