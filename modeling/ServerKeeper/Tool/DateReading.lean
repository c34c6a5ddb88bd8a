import ServerKeeper.Tool.Calendar

namespace ServerKeeper.Tool.DateReading

open Calendar

inductive Token
  | number (sign : Option Char) (digits : String) (fraction : Option String)
  | word (text : String)
  | symbol (c : Char)
  deriving DecidableEq

def isBlank (c : Char) : Bool := c = ' ' || '\t' ≤ c && c ≤ '\x0d'

def withoutRemarks : Nat → List Char → List Char
  | _, [] => []
  | depth, '(' :: cs => withoutRemarks (depth + 1) cs
  | depth, ')' :: cs =>
    if depth = 0 then ')' :: withoutRemarks 0 cs else withoutRemarks (depth - 1) cs
  | depth, c :: cs => if depth > 0 then withoutRemarks depth cs else c :: withoutRemarks 0 cs

def tokens : Nat → List Char → List Token
  | 0, _ | _, [] => []
  | fuel + 1, c :: cs =>
    if isBlank c then tokens fuel cs
    else
      let number (sign : Option Char) (cs : List Char) : List Token :=
        let digits := cs.takeWhile Char.isDigit
        let rest := cs.drop digits.length
        match rest with
        | '.' :: d :: more =>
          if d.isDigit then
            let places := (d :: more).takeWhile Char.isDigit
            .number sign (String.ofList digits) (some (String.ofList places)) ::
              tokens fuel ((d :: more).drop places.length)
          else .number sign (String.ofList digits) none :: tokens fuel rest
        | rest => .number sign (String.ofList digits) none :: tokens fuel rest
      if c.isDigit then number none (c :: cs)
      else if c = '+' || c = '-' then
        let after := cs.dropWhile isBlank
        if after.head?.any Char.isDigit then number (some c) after else .symbol c :: tokens fuel cs
      else if c.isAlpha then
        let letters := (c :: cs).takeWhile fun c => c.isAlpha || c = '.'
        let word := String.ofList (letters.filter (· ≠ '.'))
        .word word.toLower :: tokens fuel ((c :: cs).drop letters.length)
      else .symbol c :: tokens fuel cs

structure Distance where
  years : Int
  months : Int
  days : Int
  seconds : Int
  nanoseconds : Int

structure Reading where
  date : Option (Int × Int × Int)
  time : Option (Int × Int)
  zone : Option Int
  weekday : Option (Int × Nat)
  distance : Distance
  hasDistance : Bool
  absolute : Option (Int × Int)

def natural (digits : String) : Int := (digits.toNat?).getD 0

def nanoseconds (fraction : Option String) : Int :=
  fraction.elim 0 fun f => natural ((f ++ "000000000").take 9).toString

def matchesName (name word : String) : Bool :=
  let lower := name.toLower
  word == lower || word.length ≥ 3 && word == (lower.take 3).toString

def monthOf? (word : String) : Option Int :=
  if word == "sept" then some 9
  else (monthNames.findIdx? fun n => matchesName n word).map fun i => (i : Int) + 1

def weekdayOf? (word : String) : Option Nat :=
  match word with
  | "tues" => some 2
  | "wednes" => some 3
  | "thur" | "thurs" => some 4
  | _ => weekdayNames.findIdx? fun n => matchesName n word

def zoneOf? (word : String) : Option Int :=
  ([("utc", 0), ("gmt", 0), ("z", 0), ("ut", 0), ("wet", 0), ("est", -5), ("edt", -4), ("cst", -6),
    ("cdt", -5), ("mst", -7), ("mdt", -6), ("pst", -8), ("pdt", -7), ("cet", 1), ("cest", 2),
    ("bst", 1), ("jst", 9), ("eet", 2), ("msk", 3)].lookup word).map (3600 * ·)

def ordinalOf? (word : String) : Option Int :=
  [("last", -1), ("this", 0), ("next", 1), ("first", 1), ("third", 3), ("fourth", 4), ("fifth", 5),
    ("sixth", 6), ("seventh", 7), ("eighth", 8), ("ninth", 9), ("tenth", 10), ("eleventh", 11),
    ("twelfth", 12)].lookup word

def unitDistance? (n nano : Int) (word : String) : Option Distance :=
  let bare := if word.endsWith "s" && word.length > 3 then (word.dropEnd 1).toString else word
  let zero : Distance := ⟨0, 0, 0, 0, 0⟩
  match bare with
  | "year" => some { zero with years := n }
  | "month" => some { zero with months := n }
  | "fortnight" => some { zero with days := 14 * n }
  | "week" => some { zero with days := 7 * n }
  | "day" => some { zero with days := n }
  | "hour" => some { zero with seconds := 3600 * n }
  | "minute" | "min" => some { zero with seconds := 60 * n }
  | "second" | "sec" => some { zero with seconds := n, nanoseconds := nano }
  | _ => none

def Distance.plus (a b : Distance) : Distance :=
  ⟨a.years + b.years, a.months + b.months, a.days + b.days, a.seconds + b.seconds,
    a.nanoseconds + b.nanoseconds⟩

def Distance.negated (a : Distance) : Distance :=
  ⟨-a.years, -a.months, -a.days, -a.seconds, -a.nanoseconds⟩

def go (r : Reading) (d : Distance) (rest : List Token) : Reading × List Token :=
  let (d, rest) :=
    match rest with
    | .word "ago" :: rest => (d.negated, rest)
    | rest => (d, rest)
  ({ r with distance := r.distance.plus d, hasDistance := true }, rest)

def offsetOf (sign : Char) (digits : String) (minutes : Option String) : Int :=
  let n := natural digits
  let m := match minutes with
    | some m => 60 * n + natural m
    | none => if digits.length ≤ 2 then 60 * n else 60 * (n / 100) + n % 100
  let s := 60 * m
  if sign = '-' then -s else s

def zoneAfter (r : Reading) (rest : List Token) : Reading × List Token :=
  match rest with
  | .number (some sign) h none :: .symbol ':' :: .number none m none :: rest =>
    ({ r with zone := some (offsetOf sign h (some m)) }, rest)
  | .number (some sign) h none :: .word w :: more =>
    match unitDistance? 0 0 w with
    | some _ => (r, rest)
    | none => ({ r with zone := some (offsetOf sign h none) }, .word w :: more)
  | .number (some sign) h none :: rest => ({ r with zone := some (offsetOf sign h none) }, rest)
  | rest => (r, rest)

def halfOf? (hour : Int) (word : String) : Option Int :=
  if hour < 1 || 12 < hour then none
  else if word == "am" then some (hour % 12)
  else if word == "pm" then some (hour % 12 + 12)
  else none

def yearOf (digits : String) : Int :=
  let n := natural digits
  if digits.length ≤ 2 then if n < 69 then 2000 + n else 1900 + n else n

def withTime (r : Reading) (h m s nano : Int) (rest : List Token) : Option (Reading × List Token) :=
  if r.time.isSome then none
  else
    match rest with
    | .word w :: more =>
      match halfOf? h w with
      | some h => some (zoneAfter { r with time := some (3600 * h + 60 * m + s, nano) } more)
      | none =>
        if h > 24 || m > 59 || s > 60 then none
        else some ({ r with time := some (3600 * h + 60 * m + s, nano) }, rest)
    | rest =>
      if h > 24 || m > 59 || s > 60 then none
      else some (zoneAfter { r with time := some (3600 * h + 60 * m + s, nano) } rest)

def withDate (r : Reading) (y m d : Int) (rest : List Token) : Option (Reading × List Token) :=
  if r.date.isSome || m < 1 || 12 < m || d < 1 then none
  else
    let last := dayNumber y (m + 1) 1 - dayNumber y m 1
    if last < d then none else some ({ r with date := some (y, m, d) }, rest)

def step (thisYear : Int) (r : Reading) : List Token → Option (Reading × List Token)
  | [] => none
  | .symbol '@' :: .number sign digits fraction :: rest =>
    let n := natural digits
    let nano := nanoseconds fraction
    let value := if sign = some '-' then (-n, -nano) else (n, nano)
    some ({ r with absolute := some value }, rest)
  | .number none y none :: .number (some '-') m none :: .number (some '-') d none :: rest =>
    withDate r (yearOf y) (natural m) (natural d) rest
  | .number none d none :: .symbol '-' :: .word mon :: rest => do
    let m ← monthOf? mon
    match rest with
    | .number (some '-') y none :: rest => withDate r (yearOf y) m (natural d) rest
    | rest => withDate r thisYear m (natural d) rest
  | .number none a none :: .symbol '/' :: .number none b none :: .symbol '/' ::
      .number none c none :: rest =>
    if a.length ≥ 4 then withDate r (natural a) (natural b) (natural c) rest
    else withDate r (yearOf c) (natural a) (natural b) rest
  | .number none a none :: .symbol '/' :: .number none b none :: rest =>
    withDate r thisYear (natural a) (natural b) rest
  | .number none h none :: .symbol ':' :: .number none m none :: .symbol ':' ::
      .number none s fraction :: rest =>
    withTime r (natural h) (natural m) (natural s) (nanoseconds fraction) rest
  | .number none h none :: .symbol ':' :: .number none m none :: rest =>
    withTime r (natural h) (natural m) 0 0 rest
  | .number sign digits fraction :: rest => do
    let n := natural digits
    let signed := if sign = some '-' then -n else n
    match rest with
    | .word w :: more =>
      if sign.isNone && (halfOf? n w).isSome then withTime r n 0 0 0 rest
      else
        match unitDistance? signed (nanoseconds fraction) w with
        | some d => some (go r d more)
        | none =>
          match monthOf? w, sign with
          | some m, none =>
            match more with
            | .number none y none :: after =>
              if after.head? = some (.symbol ':') then withDate r thisYear m n more
              else withDate r (yearOf y) m n after
            | more => withDate r thisYear m n more
          | _, _ => plainNumber r thisYear sign digits rest
    | rest => plainNumber r thisYear sign digits rest
  | .word w :: rest => do
    match w with
    | "now" | "today" => some ({ r with hasDistance := true }, rest)
    | "tomorrow" => some (go r ⟨0, 0, 1, 0, 0⟩ rest)
    | "yesterday" => some (go r ⟨0, 0, -1, 0, 0⟩ rest)
    | "midnight" => withTime r 0 0 0 0 rest
    | "noon" => withTime r 12 0 0 0 rest
    | "t" => if r.date.isSome && r.time.isNone then some (r, rest) else none
    | w =>
      match monthOf? w, weekdayOf? w, zoneOf? w, ordinalOf? w, unitDistance? 1 0 w with
      | some m, _, _, _, _ =>
        match rest with
        | .number none d none :: .symbol ',' :: .number none y none :: rest =>
          withDate r (yearOf y) m (natural d) rest
        | .number none d none :: .number none y none :: rest =>
          if rest.head? = some (.symbol ':') then
            withDate r thisYear m (natural d) (.number none y none :: rest)
          else withDate r (yearOf y) m (natural d) rest
        | .number none d none :: rest => withDate r thisYear m (natural d) rest
        | _ => none
      | _, some day, _, _, _ =>
        let rest := if rest.head? = some (.symbol ',') then rest.drop 1 else rest
        some ({ r with weekday := some (0, day) }, rest)
      | _, _, some zone, _, _ => some ({ r with zone := some zone }, rest)
      | _, _, _, some n, _ =>
        match rest with
        | .word unit :: rest =>
          match unitDistance? n 0 unit, weekdayOf? unit with
          | some d, _ => some (go r d rest)
          | none, some day => some ({ r with weekday := some (n, day) }, rest)
          | none, none => none
        | _ => none
      | _, _, _, _, some d => some (go r d rest)
      | _, _, _, _, _ => none
  | .symbol ',' :: rest => some (r, rest)
  | .symbol _ :: _ => none
where
  plainNumber (r : Reading) (thisYear : Int) (sign : Option Char) (digits : String)
      (rest : List Token) : Option (Reading × List Token) :=
    let n := natural digits
    if sign.isSome then
      if r.time.isSome && r.zone.isNone then some (zoneAfter r (.number sign digits none :: rest))
      else none
    else if r.date.isSome && r.time.isSome && digits.length = 4 && r.zone.isNone then
      some ({ r with date := r.date.map fun (_, m, d) => (n, m, d) }, rest)
    else if digits.length = 8 then withDate r (n / 10000) (n / 100 % 100) (n % 100) rest
    else if digits.length = 6 then withDate r (yearOf (digits.take 2).toString) (n / 100 % 100)
      (n % 100) rest
    else if digits.length ≤ 2 then withTime r n 0 0 0 rest
    else if digits.length ≤ 4 then withTime r (n / 100) (n % 100) 0 0 rest
    else if thisYear = 0 then none
    else none

def steps (thisYear : Int) : Nat → Reading → List Token → Option Reading
  | _, r, [] => some r
  | 0, _, _ => none
  | fuel + 1, r, ts => do
    let (r, rest) ← step thisYear r ts
    if rest.length < ts.length then steps thisYear fuel r rest else none

def applied (date : Int × Int × Int) (d : Distance) : Int :=
  let (y, m, day) := date
  dayNumber (y + d.years) (m + d.months) day + d.days

def read? (now : Int) (text : String) : Option Int := do
  let ts := tokens (text.length + 1) (withoutRemarks 0 text.toList)
  let today := Calendar.parts now 0 "UTC"
  let blank : Reading := ⟨none, none, none, none, ⟨0, 0, 0, 0, 0⟩, false, none⟩
  let r ← steps today.date.year (ts.length + 1) blank ts
  match r.absolute with
  | some (s, nano) => if ts.length = 2 then some (s * 1000000000 + nano) else none
  | none =>
    let isToday := r.date.isNone && r.weekday.isNone && r.time.isNone
    let (time, nano) :=
      match r.time with
      | some t => t
      | none =>
        if isToday && (r.hasDistance || r.zone.isNone) && !ts.isEmpty then
          ((now.fdiv 1000000000).fmod 86400, now.fmod 1000000000)
        else (0, 0)
    let date := r.date.getD (today.date.year, today.date.month, today.date.day)
    let day := applied date r.distance
    let day :=
      match r.weekday with
      | some (n, w) =>
        if r.date.isSome then day
        else
          let ahead := ((w : Int) - (weekday day : Int)).fmod 7
          day + ahead + 7 * (n - if n > 0 && ahead ≠ 0 then 1 else 0)
      | none => day
    let seconds := day * 86400 + time + r.distance.seconds - r.zone.getD 0
    some (seconds * 1000000000 + nano + r.distance.nanoseconds)

end ServerKeeper.Tool.DateReading
