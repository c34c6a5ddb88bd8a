import ServerKeeper.Tool.Viewing

namespace ServerKeeper.Tool.Following

open Job Host Viewing

def ending (s : Share) (mark : Char) (text : String) : String :=
  if s.ofLines then
    let ls := linesBy mark text
    let skipped := if s.isOther then s.amount - 1 else ls.length - s.amount
    String.join ((ls.drop skipped).map (·.endedBy mark))
  else
    (text.drop (if s.isOther then s.amount - 1 else text.length - s.amount)).toString

structure TailPlan where
  share : Share
  banners : Option Bool
  mark : Char
  follows : Option Bool
  retries : Bool
  companion : Option Nat
  pause : Nat

inductive Hindrance
  | fault (f : FileFault)
  | kind

structure Followed where
  path : String
  source : Option (Nat × Nat)
  hindrance : Option Hindrance
  isHopeful : Bool
  isGivenUp : Bool
  size : Nat
  stillness : Nat

def canGrow : Content → Bool
  | .file _ | .device _ | .queue => true
  | _ => false

def statusOfInput (path : String) (followLast : Bool) : Job (Except FileFault FileStatus) := do
  if path == "-" then ask (.statusOf 0) else ask (.status path followLast)

def showEnd (p : TailPlan) (path : String) (fd : Nat) : Job Followed := do
  let isWhole ← do
    match ← readRest fd with
    | .ok text =>
      print (ending p.share p.mark text)
      pure true
    | .error fault =>
      complain ("error reading " ++ inputName path ++ ": " ++ fault.text)
      pure false
  let lost : Followed := ⟨path, none, some .kind, false, !p.retries, 0, 0⟩
  match ← ask (.statusOf fd) with
  | .error _ => return lost
  | .ok s =>
    if p.follows.isSome && !canGrow s.content then
      complain (ShownPath.plain (nameOf path) ++ ": cannot follow end of this type of file" ++
        if p.retries then "" else "; giving up on this name")
    if isWhole && canGrow s.content && p.follows.isSome then
      let size := match s.content with
        | .file bytes => bytes.size
        | _ => 0
      return ⟨path, some (fd, s.number), none, true, false, size, 0⟩
    else
      closeInput path fd
      return lost

def tailEach (p : TailPlan) (banners : Bool) : List String → Bool → Job (List Followed)
  | [], _ => return []
  | path :: rest, isFirst => do
    match ← openInput path with
    | .error fault =>
      complain ("cannot open " ++ ShownPath.quoted path ++ " for reading: " ++ fault.text)
      let f : Followed := ⟨path, none, some (.fault fault), !p.retries, !p.retries, 0, 0⟩
      return f :: (← tailEach p banners rest isFirst)
    | .ok fd =>
      if banners then print (banner path isFirst)
      let f ← showEnd p path fd
      return f :: (← tailEach p banners rest false)

def remark (text : String) : Job Unit := do tell ((← get).name ++ ": " ++ text ++ "\n")

namespace Followed

def close (f : Followed) : Job Followed := do
  if let some (fd, _) := f.source then closeInput f.path fd
  return { f with source := none }

def renew (f : Followed) : Job Followed := do
  let f ← f.close
  match ← openInput f.path with
  | .error _ => return f
  | .ok fd =>
    match ← ask (.statusOf fd) with
    | .error _ => return f
    | .ok s => return { f with source := some (fd, s.number), size := 0 }

/-- Looks at what the path stands for now. Where names are `isWatched`, a link is not followed. -/
def lookAgain (f : Followed) (p : TailPlan) (isWatched : Bool) : Job Followed := do
  let name := inputName f.path
  let found ← statusOfInput f.path true
  let isHopeful := !p.retries || found.isOk
  let isLink ← do
    if !isWatched then pure false
    else match ← statusOfInput f.path false with
      | .ok s => pure s.content.isLink
      | .error _ => pure false
  if isLink then
    remark (name ++ " has been replaced with an untailable symbolic link")
    ({ f with hindrance := some .kind, isHopeful, isGivenUp := true } : Followed).close
  else
    match found with
    | .error fault =>
      if !isHopeful then
        if f.isHopeful then remark (name ++ " has become inaccessible: " ++ fault.text)
      else
        match f.hindrance with
        | some (.fault old) => if old ≠ fault then remark (about (nameOf f.path) fault)
        | _ => remark (about (nameOf f.path) fault)
      ({ f with hindrance := some (.fault fault), isHopeful } : Followed).close
    | .ok s =>
      if !canGrow s.content then
        let isGivenUp := !(p.retries && p.follows = some true)
        let isKnown := !f.isHopeful && match f.hindrance with
          | some .kind => true
          | _ => false
        if !isKnown then
          remark (name ++ " has been replaced with an untailable file" ++
            if isGivenUp then "; giving up on this name" else "")
        ({ f with hindrance := some .kind, isHopeful := false, isGivenUp } : Followed).close
      else
        let next : Followed := { f with hindrance := none, isHopeful }
        match f.hindrance, f.source with
        | some .kind, _ =>
          remark (name ++ " has become accessible")
          next.renew
        | some (.fault fault), _ =>
          if fault = .notFound then remark (name ++ " has appeared;  following new file")
          else remark (name ++ " has become accessible")
          next.renew
        | none, none =>
          remark (name ++ " has appeared;  following new file")
          next.renew
        | none, some (_, number) =>
          if number = s.number then return next
          else
            remark (name ++ " has been replaced;  following new file")
            next.renew

def showGrowth (f : Followed) (banners : Bool) (last : String) : Job (Followed × String) := do
  match f.source with
  | none => return (f, last)
  | some (fd, _) =>
    let size ← do
      match ← ask (.statusOf fd) with
      | .ok { content := .file bytes, .. } =>
        if bytes.size < f.size then
          remark (ShownPath.plain (nameOf f.path) ++ ": file truncated")
          let _ ← ask (.seek fd 0)
          pure 0
        else pure f.size
      | _ => pure f.size
    match ← readRest fd with
    | .error _ => return ({ f with size }, last)
    | .ok text =>
      if text.isEmpty then return ({ f with size, stillness := f.stillness + 1 }, last)
      else
        if banners && f.path ≠ last then print (banner f.path false)
        print text
        return ({ f with size := size + text.length, stillness := 0 }, f.path)

end Followed

/-- How inputs are looked at: at their names, if these are followed, each time or after some time
without change. -/
structure Watch where
  plan : TailPlan
  banners : Bool
  isWatched : Bool

namespace Watch

def maxStillness : Nat := 5

def lookAtOne (w : Watch) (f : Followed) (last : String) : Job (Followed × String) := do
  if f.isGivenUp then return (f, last)
  else if f.source.isNone then
    let f ← f.lookAgain w.plan w.isWatched
    if w.isWatched then f.showGrowth w.banners last else return (f, last)
  else if w.plan.follows = some true && (w.isWatched || f.stillness > maxStillness) then
    let f ← f.lookAgain w.plan w.isWatched
    ({ f with stillness := 0 } : Followed).showGrowth w.banners last
  else f.showGrowth w.banners last

def lookAtAll (w : Watch) : List Followed → String → Job (List Followed × String)
  | [], last => return ([], last)
  | f :: rest, last => do
    let (f, last) ← w.lookAtOne f last
    let (others, last) ← w.lookAtAll rest last
    return (f :: others, last)

def isCompanionGone (w : Watch) : Job Bool := do
  match w.plan.companion with
  | none => return false
  | some pid =>
    match ← ask (.signal pid 0) with
    | .error fault => return fault = .noProcess
    | .ok () => return false

def hasHope (w : Watch) (inputs : List Followed) : Bool :=
  w.plan.retries && w.plan.follows = some true ||
    inputs.any fun f => f.source.isSome || w.plan.retries && !f.isGivenUp

def follow (w : Watch) (pause : Nat) : Nat → Bool → List Followed → String → Job Unit
  | 0, _, _, _ => pure ()
  | fuel + 1, isLast, inputs, last => do
    let (inputs, last) ← w.lookAtAll inputs last
    if !w.hasHope inputs then complain "no files remaining"
    else
      flush
      unless ← ask (.isHeard 1) do
        let _ ← ask (.signal (← ask .self) Signal.brokenPipe)
        stop 1
      if isLast then pure ()
      else if ← w.isCompanionGone then follow w pause fuel true inputs last
      else
        let _ ← ask (.sleep pause)
        follow w pause fuel false inputs last

def reactionTime : Nat := 20000000

def isTold (inputs : List Followed) : Job Bool := do
  let mut told := inputs.any (·.source.isSome)
  for f in inputs do
    if f.path == "-" then told := told && f.isGivenUp
    else
      if let .ok s ← ask (.status f.path false) then
        told := told && !s.content.isLink
      if let some (fd, _) := f.source then
        if let .ok { content := .device _, .. } ← ask (.statusOf fd) then told := false
  return told

end Watch

/-- Leaves out the input of the tool where that is a pipe. Gives nothing where nothing else was to be
followed. -/
def withoutPipe (inputs : List Followed) : Job (Option (List Followed)) := do
  let isPipe ← match ← ask (.statusOf 0) with
    | .ok { content := .queue, .. } => pure true
    | _ => pure false
  let isLeftOut (f : Followed) : Bool := f.path == "-" && f.source.isSome && isPipe
  if inputs.all isLeftOut then return none
  else
    return some (inputs.map fun f =>
      if isLeftOut f then { f with source := none, isGivenUp := true } else f)

/-- The old form: a number behind a sign, and letters behind it. There is at most one operand. -/
def TailPlan.ofOld? (arguments : List String) (p : TailPlan) : Option (TailPlan × String) := do
  let isAlone :=
    match arguments with
    | [_] => true
    | [_, path] => !path.startsWith "-" || path == "-" || path == "--"
    | [_, "--", _] => true
    | _ => false
  if !isAlone then none
  else
    match arguments.map String.toList with
    | (sign :: cs) :: _ =>
      let isOther := sign = '+'
      if !isOther && (sign ≠ '-' || cs.isEmpty || cs = ['c']) then none
      else
        let digits := cs.takeWhile Char.isDigit
        let letters := cs.drop digits.length
        let (unit, rest) :=
          match letters with
          | 'b' :: rest => (some 'b', rest)
          | 'c' :: rest => (some 'c', rest)
          | 'l' :: rest => (none, rest)
          | rest => (none, rest)
        let follows := if rest = ['f'] then some false else none
        if !rest.isEmpty && rest ≠ ['f'] then none
        else
          let text := if digits.isEmpty then "10" else String.ofList digits
          some ({ p with share := ⟨unit.isNone, 0, isOther⟩, follows },
            if unit = some 'b' then text ++ "b" else text)
    | _ => none

def TailPlan.with (p : TailPlan) (key value : String) : Job TailPlan := do
  match key with
  | "n" | "c" =>
    let ofLines := key == "n"
    let text := if value.startsWith "-" then (value.drop 1).toString else value
    let amount ← sizeOf (amountComplaint ofLines) usualSuffixes text
    return { p with share := ⟨ofLines, amount, p.share.isOther || value.startsWith "+"⟩ }
  | "f" =>
    let byName ←
      if value.isEmpty then pure false
      else choice (hint 1) "--follow" [("descriptor", false), ("name", true)] value
    return { p with follows := some byName }
  | "F" => return { p with follows := some true, retries := true }
  | "q" => return { p with banners := some false }
  | "v" => return { p with banners := some true }
  | "z" => return { p with mark := '\x00' }
  | "retry" => return { p with retries := true }
  | "pid" =>
    let companion ← numberWithin "invalid PID" value 0 (Nat.pow 2 31 - 1)
    return { p with companion := if companion = 0 then none else some companion.toNat }
  | "s" =>
    match Starting.duration? value with
    | some pause => return { p with pause }
    | none => fail ("invalid number of seconds: " ++ ShownPath.literal value)
  | "m" =>
    let _ ← numberWithin "invalid maximum number of unchanged stats between opens" value 0
      (Nat.pow 2 64 - 1)
    return p
  | key => fail ("option used in invalid context -- " ++ key)

def tail : Utility where
  name := "tail"
  work arguments := do
    let t := OptionTable.ofTexts "c:n:fFqs:vz0123456789"
      ["bytes= c", "follow? f", "lines= n", "max-unchanged-stats= m", "pid= pid", "quiet q",
       "retry retry", "silent q", "sleep-interval= s", "verbose v", "zero-terminated z"] true 1
    let usual : TailPlan := ⟨⟨true, 10, false⟩, none, '\n', none, false, none, 1000000000⟩
    let (old, arguments) ←
      match usual.ofOld? arguments with
      | some (p, text) =>
        let amount ← sizeOf "invalid number" "b" text
        pure ({ p with share := { p.share with amount } }, arguments.drop 1)
      | none =>
        match (arguments.headD "").toList with
        | '-' :: c :: _ =>
          if c.isDigit then fail ("option used in invalid context -- " ++ c.toString)
          else pure (usual, arguments)
        | _ => pure (usual, arguments)
    let (found, paths) ← t.parse arguments
    let p ← found.foldlM (fun p (key, value) => p.with key (value.getD "")) old
    if p.retries && p.follows.isNone then
      tell "tail: warning: --retry ignored; --retry is useful only when following\n"
    else if p.retries && p.follows = some false then
      tell "tail: warning: --retry only effective for the initial open\n"
    if p.companion.isSome && p.follows.isNone then
      tell "tail: warning: PID ignored; --pid=PID is useful only when following\n"
    let paths := if paths.isEmpty then ["-"] else paths
    if p.follows = some true && paths.contains "-" then fail "cannot follow '-' by name"
    if p.share.amount = 0 && p.follows.isNone && !p.share.isOther then return
    let banners := p.banners.getD (paths.length > 1)
    let inputs ← tailEach p banners paths true
    if p.follows.isSome then
      if let some inputs ← withoutPipe inputs then
        let isWatched := (← Watch.isTold inputs) && ((← get).status = 0 || p.follows = some true)
        let pause := if isWatched then min p.pause Watch.reactionTime else p.pause
        Watch.follow ⟨p, banners, isWatched⟩ pause maxRounds false inputs
          ((paths.getLast?).getD "")

end ServerKeeper.Tool.Following
