import ServerKeeper.Tool.Calendar
import ServerKeeper.Tool.Records.World

namespace ServerKeeper.Tool.Records

open Host
open Regex (Compiled slice)

namespace Act

def breathe : Act Unit := do
  let n := (← get).breath
  modify fun w => { w with breath := n + 1 }
  if n % 32 = 0 then
    let _ ← ask .self

def calculate (o : Operation) (x y : Float) : Float :=
  match o with
  | .add => x + y
  | .subtract => x - y
  | .multiply => x * y
  | .divide => x / y
  | .remainder =>
    if y == 0 || x.isInf || x.isNaN || y.isNaN then 0.0 / 0.0
    else if y.isInf then x
    else remainderOf x y
  | .power => x ^ y
where
  /-- What is left of a number where another one is taken off as often as possible. -/
  remainderOf (x y : Float) : Float :=
    match Decimal.Printed.magnitude x, Decimal.Printed.magnitude y with
    | .finite a, .finite b =>
      let n := a.numerator * b.denominator % (b.numerator * a.denominator)
      let r := Decimal.Scanned.scaled n 0 / Float.ofNat (a.denominator * b.denominator)
      if x < 0 then -r else r
    | _, _ => 0.0 / 0.0

def keyText (ks : List String) : Act String := do
  match ks with
  | [k] => return k
  | ks => return (← textAt "SUBSEP").intercalate ks

def replacementFor (found : String) : List Char → List Char
  | [] => []
  | '\\' :: '&' :: rest => '&' :: replacementFor found rest
  | '\\' :: '\\' :: rest => '\\' :: replacementFor found rest
  | '&' :: rest => found.toList ++ replacementFor found rest
  | c :: rest => c :: replacementFor found rest

def replaced (r : Compiled) (text : Array Char) (replacement : List Char) (isGlobal : Bool) :
    Nat → Nat → Option Nat → List String → Nat → Compiled.Marks → List String × Nat
  | 0, _, _, pieces, n, _ => (pieces, n)
  | fuel + 1, start, before, pieces, n, marks =>
    if start > text.size then (pieces, n)
    else
      match r.searchWith text start marks with
      | (none, _) => (slice text start text.size :: pieces, n)
      | (some m, marks) =>
        let pieces := slice text start m.start :: pieces
        let one := slice text m.start (m.start + 1)
        if m.start = m.stop && before = some m.start then
          replaced r text replacement isGlobal fuel (m.start + 1) none (one :: pieces) n marks
        else
          let shown := replacementFor (slice text m.start m.stop) replacement
          let pieces := String.ofList shown :: pieces
          if !isGlobal then (slice text m.stop text.size :: pieces, n + 1)
          else if m.start = m.stop then
            replaced r text replacement isGlobal fuel (m.start + 1) none (one :: pieces) (n + 1)
              marks
          else
            replaced r text replacement isGlobal fuel m.stop (some m.stop) pieces (n + 1) marks

def part (text : String) (start : Float) (length : Option Float) : String :=
  let first := Value.wholePart start
  let cs := text.toList
  match length with
  | none => String.ofList (cs.drop (max first 1 - 1).toNat)
  | some n =>
    let n := Value.wholePart n - min first 0
    if n ≤ 0 then "" else String.ofList ((cs.drop (max first 1 - 1).toNat).take n.toNat)

def indexOf (part : List Char) : List Char → Nat → Nat
  | [], n => if part.isEmpty then n else 0
  | c :: cs, n => if part.isPrefixOf (c :: cs) then n else indexOf part cs (n + 1)

def compiledOf (v : Value) : Act Compiled := do
  match Expressions.compile (← textOf v) with
  | .ok r => return r
  | .error why => fault why

def secondsOf (text : String) : Int :=
  match (text.splitOn " ").filterMap String.toInt? with
  | y :: mo :: d :: h :: mi :: s :: _ =>
    let months := y * 12 + (mo - 1)
    (Calendar.dayNumber (months.fdiv 12) (months.fmod 12 + 1) 1 + (d - 1)) * 86400 + h * 3600 +
      mi * 60 + s
  | _ => -1

def numeric? (name : String) : Option (Float → Float) :=
  match name with
  | "sin" => some Float.sin
  | "cos" => some Float.cos
  | "exp" => some Float.exp
  | "log" => some Float.log
  | "sqrt" => some Float.sqrt
  | "int" => some fun x => if x < 0 then x.ceil else x.floor
  | _ => none

def builtin (name : String) (vs : List Value) : Act Value := do
  match name, vs with
  | "length", v :: _ => return .ofNat (← textOf v).length
  | "index", [a, b] =>
    let a ← textOf a
    let b ← textOf b
    if b.isEmpty then return .number (if a.isEmpty then 0 else 1)
    else return .ofNat (indexOf b.toList a.toList 1)
  | "substr", [a, b] => return .text (part (← textOf a) b.toNumber none)
  | "substr", [a, b, c] => return .text (part (← textOf a) b.toNumber (some c.toNumber))
  | "sprintf", f :: vs => return .text (← formatted "sprintf" (← textOf f) vs)
  | "atan2", [a, b] => return .number (Float.atan2 a.toNumber b.toNumber)
  | "toupper", [a] => return .text (← textOf a).toUpper
  | "tolower", [a] => return .text (← textOf a).toLower
  | "rand", _ =>
    let n := ((← get).state * 6364136223846793005 + 1442695040888963407) % Nat.pow 2 64
    modify fun w => { w with state := n }
    return .number (Float.ofNat (n / Nat.pow 2 11) / 9007199254740992.0)
  | "srand", vs =>
    let before := (← get).seed
    let seed ←
      match vs with
      | v :: _ => pure v.toNumber
      | [] => pure (Float.ofNat ((← ask .clock).toNat / 1000000000))
    modify fun w => { w with seed, state := seed.toBits.toNat }
    return .number before
  | "close", [a] => return .number (Float.ofInt (← closeNamed (← textOf a)))
  | "system", [a] => return .ofNat (← runCommand (← textOf a))
  | "fflush", [] =>
    flushAll
    return .number 0
  | "fflush", a :: _ =>
    let path ← textOf a
    if path.isEmpty || isUsual path then
      flushAll
      return .number 0
    else if (← get).outputs.any (·.1.2 == path) then
      flushAll
      return .number 0
    else return .number (-1)
  | "systime", _ => return .number (Float.ofInt ((← ask .clock).fdiv 1000000000))
  | "mktime", [a] => return .number (Float.ofInt (secondsOf (← textOf a)))
  | "strftime", vs =>
    let format ← match vs with
      | f :: _ => textOf f
      | [] => pure "%c"
    let seconds ←
      match vs with
      | _ :: s :: _ => pure (Value.wholePart s.toNumber)
      | _ => pure ((← ask .clock).fdiv 1000000000)
    return .text (Calendar.text format (Calendar.parts (seconds * 1000000000) 0 "UTC"))
  | name, v :: _ =>
    match numeric? name with
    | some f => return .number (f v.toNumber)
    | none => return .nothing
  | _, _ => return .nothing
where
  formatted (name format : String) (vs : List Value) : Act String := do
    match Value.formatted name (← conversion) format vs with
    | .ok text => return text
    | .error (_, why) => fault why

def fieldNumber (v : Value) : Act Nat := do
  let x := v.toNumber
  let n := Value.wholePart x
  if n < 0 then fault ("negative field index $" ++ toString n) else return n.toNat

inductive Place
  | variable (n : Name)
  | element (table : Nat) (k : Key)
  | field (index : Nat)
  | nowhere

def valueOf : Place → Act Value
  | .variable (.overall i) => getOverall i
  | .variable (.local i) => do
    match (← get).locals.getD i default with
    | .value v => return v
    | .table _ => return .nothing
  | .element table k => onTable (.overall table) (·.get k)
  | .field i => fieldAt i
  | .nowhere => return .nothing

def assign (p : Place) (v : Value) : Act Unit := do
  match p with
  | .variable (.overall i) => setOverall i v
  | .variable (.local i) =>
    modify fun w => { w with locals := w.locals.setIfInBounds i (.value v) }
  | .element table k => onTable (.overall table) fun t => ((), t.set k v)
  | .field i => setField i v
  | .nowhere => pure ()

def keep (p : Place) (text : String) : Act Unit := do
  match p with
  | .field 0 => setRecord text
  | p => assign p (.input text)

def readFrom (isCommand : Bool) (path : String) (p : Place) : Act Value := do
  match ← recordFrom isCommand path with
  | .error () => return .number (-1)
  | .ok none => return .number 0
  | .ok (some text) =>
    keep p text
    return .number 1

mutual

def evaluate : Nat → Expression → Act Value
  | 0, _ => throw .crash
  | fuel + 1, e => do
    match e with
    | .number x => return .number x
    | .text s => return .text s
    | .regex r => return .ofBool (r.isFoundIn (← wholeRecord))
    | .variable n =>
      match n with
      | .overall i => getOverall i
      | .local i =>
        match (← get).locals.getD i default with
        | .value v => return v
        | .table _ => return .nothing
    | .element .. | .field _ => valueOf (← placeOf fuel e)
    | .group e => evaluate fuel e
    | .tuple _ => return .nothing
    | .assign target o value =>
      let place ← placeOf fuel target
      let y ← evaluate fuel value
      let v ←
        match o with
        | none => pure y
        | some o => pure (.number (calculate o (← valueOf place).toNumber y.toNumber))
      assign place v
      return v
    | .step target change isBefore =>
      let place ← placeOf fuel target
      let x := (← valueOf place).toNumber
      assign place (.number (x + change))
      return .number (if isBefore then x else x + change)
    | .arithmetic o a b =>
      let x := (← evaluate fuel a).toNumber
      let y := (← evaluate fuel b).toNumber
      return .number (calculate o x y)
    | .compare r a b =>
      let x ← evaluate fuel a
      let y ← evaluate fuel b
      let o := Value.ordering (← conversion) x y
      return .ofBool (match r with
        | .less => o == .lt
        | .notGreater => o != .gt
        | .equal => o == .eq
        | .notEqual => o != .eq
        | .notLess => o != .lt
        | .greater => o == .gt)
    | .fits isNegated a b =>
      let text ← textOf (← evaluate fuel a)
      let r ← patternOf fuel b
      return .ofBool (r.isFoundIn text != isNegated)
    | .both a b =>
      if (← evaluate fuel a).isTrue then return .ofBool (← evaluate fuel b).isTrue
      else return .number 0
    | .either a b =>
      if (← evaluate fuel a).isTrue then return .number 1
      else return .ofBool (← evaluate fuel b).isTrue
    | .negation a => return .ofBool (!(← evaluate fuel a).isTrue)
    | .minus a => return .number (-(← evaluate fuel a).toNumber)
    | .plus a => return .number (← evaluate fuel a).toNumber
    | .join a b =>
      let x ← textOf (← evaluate fuel a)
      let y ← textOf (← evaluate fuel b)
      return .text (x ++ y)
    | .choice c a b =>
      if (← evaluate fuel c).isTrue then evaluate fuel a else evaluate fuel b
    | .contains keys n =>
      let k ← keyOf fuel keys
      return .ofBool (← onTable n (·.look k))
    | .call f arguments => call fuel f arguments
    | .builtin "match" [a, b] =>
      let text ← textOf (← evaluate fuel a)
      let r ← patternOf fuel b
      let (start, length) : Float × Float :=
        match r.search? text.toList.toArray 0 with
        | some m => (Float.ofNat (m.start + 1), Float.ofNat (m.stop - m.start))
        | none => (0, -1)
      putValue (known "RSTART") (.number start)
      putValue (known "RLENGTH") (.number length)
      return .number start
    | .builtin name arguments => builtin name (← evaluateAll fuel arguments)
    | .size n =>
      match n with
      | .overall i =>
        if (← get).program.arrays.getD i false then
          return .ofNat ((← get).tables.getD i .empty).size
        else return .ofNat (← textOf (← getOverall i)).length
      | .local i =>
        match (← get).locals.getD i default with
        | .value v => return .ofNat (← textOf v).length
        | .table t => return .ofNat ((← get).tables.getD t .empty).size
    | .split text target by_ =>
      let text ← textOf (← evaluate fuel text)
      let separator ←
        match by_ with
        | none => pure (← get).fieldSeparator
        | some (.regex r) => pure (Separator.fits r)
        | some e =>
          match Separator.ofText (← textOf (← evaluate fuel e)) with
          | .ok s => pure s
          | .error why => crash why
      let parts := separator.parts false text
      onTable target fun _ => ((), Table.ofList (parts.map .input))
      return .ofNat parts.length
    | .replace isGlobal pattern replacement target =>
      let r ← patternOf fuel pattern
      let shown ← textOf (← evaluate fuel replacement)
      let place ← placeOf fuel target
      let text := (← textOf (← valueOf place)).toList.toArray
      let (pieces, n) :=
        replaced r text shown.toList isGlobal (text.size + 3) 0 none [] 0 (r.fresh text)
      if n > 0 then assign place (.text (String.join pieces.reverse))
      return .ofNat n
    | .readMain target =>
      let place ← placeOf? fuel target
      match ← nextRecord maxRounds with
      | none => return .number 0
      | some text =>
        keep place text
        return .number 1
    | .readFile target path =>
      let place ← placeOf? fuel target
      let path ← textOf (← evaluate fuel path)
      readFrom false path place
    | .readCommand target command =>
      let command ← textOf (← evaluate fuel command)
      let place ← placeOf? fuel target
      readFrom true command place

def placeOf : Nat → Expression → Act Place
  | 0, _ => throw .crash
  | fuel + 1, e => do
    match e with
    | .variable n => return .variable n
    | .element n keys =>
      let k ← keyOf fuel keys
      let _ ← onTable n (·.get k)
      return .element (← tableOf n) k
    | .field index => return .field (← fieldNumber (← evaluate fuel index))
    | _ => return .nowhere

def placeOf? : Nat → Option Expression → Act Place
  | 0, _ => throw .crash
  | fuel + 1, e => do
    match e with
    | some e => placeOf fuel e
    | none => return .field 0

def patternOf : Nat → Expression → Act Compiled
  | 0, _ => throw .crash
  | fuel + 1, e => do
    match e with
    | .regex r => return r
    | e => compiledOf (← evaluate fuel e)

def evaluateAll : Nat → List Expression → Act (List Value)
  | 0, _ => throw .crash
  | fuel + 1, es => do
    match es with
    | [] => return []
    | e :: rest =>
      let v ← evaluate fuel e
      return v :: (← evaluateAll fuel rest)

def keyOf : Nat → List Expression → Act Key
  | 0, _ => throw .crash
  | fuel + 1, es => do
    match ← evaluateAll fuel es with
    | [.number x] =>
      match Value.wholeText? x with
      | some s =>
        match s.toInt? with
        | some n => if n < Nat.pow 2 63 then return .number n else return .text s
        | none => return .text s
      | none => return .text (← textOf (.number x))
    | vs =>
      let mut texts := []
      for v in vs do
        texts := (← textOf v) :: texts
      return .text (← keyText texts.reverse)

/-- Calls a function. An array is handed over as it is; parameters without an argument are new. -/
def call : Nat → Nat → List Expression → Act Value
  | 0, _, _ => throw .crash
  | fuel + 1, index, arguments => do
    breathe
    let f := (← get).program.functions.getD index default
    let slots ← bind fuel f.arrays arguments
    let w ← get
    let outer := w.locals
    let height := w.tables.size
    set { w with locals := slots.toArray }
    let fresh ← newTables f.arrays slots
    modify fun w => { w with locals := fresh.toArray }
    let outcome ← ExceptT.lift (ExceptT.run (run fuel f.body))
    modify fun w => { w with locals := outer, tables := w.tables.extract 0 height }
    match outcome with
    | .ok () => return .nothing
    | .error (.give v) => return v
    | .error d => throw d

def bind : Nat → List Bool → List Expression → Act (List Slot)
  | 0, _, _ => throw .crash
  | fuel + 1, arrays, arguments => do
    match arrays, arguments with
    | isArray :: arrays, e :: rest =>
      let slot ←
        match isArray, e with
        | true, .variable n => pure (Slot.table (← tableOf n))
        | true, .group (.variable n) => pure (Slot.table (← tableOf n))
        | _, e => pure (Slot.value (← evaluate fuel e))
      return slot :: (← bind fuel arrays rest)
    | _, _ => return []

def newTables : List Bool → List Slot → Act (List Slot)
  | [], _ => return []
  | isArray :: arrays, slots => do
    let slot ←
      match slots with
      | s :: _ => pure s
      | [] =>
        if isArray then
          let n := (← get).tables.size
          modify fun w => { w with tables := w.tables.push .empty }
          pure (Slot.table n)
        else pure (Slot.value .nothing)
    return slot :: (← newTables arrays (slots.drop 1))

def run : Nat → List Statement → Act Unit
  | 0, _ => throw .crash
  | fuel + 1, ss => do
    match ss with
    | [] => pure ()
    | s :: rest =>
      execute fuel s
      run fuel rest

def directed : Nat → Option (Direction × Expression) → Act (Option (Direction × String))
  | 0, _ => throw .crash
  | fuel + 1, d => do
    match d with
    | none => return none
    | some (d, e) => return some (d, ← textOf (← evaluate fuel e))

def execute : Nat → Statement → Act Unit
  | 0, _ => throw .crash
  | fuel + 1, s => do
    match s with
    | .evaluate e => let _ ← evaluate fuel e
    | .print es direction =>
      let between ← textAt "OFS"
      let behind ← textAt "ORS"
      let line ←
        match es with
        | [] => wholeRecord
        | es =>
          let format ← textAt "OFMT"
          let vs ← evaluateAll fuel es
          pure (between.intercalate (vs.map (·.toText format)))
      printTo (← directed fuel direction) (line ++ behind)
    | .printf es direction =>
      match ← evaluateAll fuel es with
      | [] => pure ()
      | f :: vs =>
        let format ← textOf f
        let direction ← directed fuel direction
        match Value.formatted "printf" (← conversion) format vs with
        | .ok text => printTo direction text
        | .error (before, why) =>
          printTo direction before
          fault why
    | .block ss => run fuel ss
    | .choice c a b =>
      if (← evaluate fuel c).isTrue then execute fuel a
      else
        match b with
        | some b => execute fuel b
        | none => pure ()
    | .loop c body => whileTrue fuel (some c) body none
    | .loopOnce body c =>
      if ← inside fuel body then whileTrue fuel (some c) body none
    | .count start c next body =>
      if let some e := start then let _ ← evaluate fuel e
      whileTrue fuel c body next
    | .each target array body =>
      let keys ← onTable array (·.keys)
      eachKey fuel target keys body
    | .delete n keys =>
      let k ← keyOf fuel keys
      onTable n fun t => ((), t.erase k)
    | .clear n => onTable n fun _ => ((), .empty)
    | .leave => throw .leave
    | .goOn => throw .goOn
    | .next => throw .next
    | .nextFile => throw .nextFile
    | .exit status =>
      if let some e := status then
        let n := Value.wholePart (← evaluate fuel e).toNumber
        modify fun w => { w with status := (n % 256).toNat }
      throw .exit
    | .give value =>
      let v ← match value with
        | some e => evaluate fuel e
        | none => pure .nothing
      throw (.give v)

def inside : Nat → Statement → Act Bool
  | 0, _ => throw .crash
  | fuel + 1, body => do
    breathe
    match ← ExceptT.lift (ExceptT.run (execute fuel body)) with
    | .ok () | .error .goOn => return true
    | .error .leave => return false
    | .error d => throw d

def whileTrue : Nat → Option Expression → Statement → Option Expression → Act Unit
  | 0, _, _, _ => throw .crash
  | fuel + 1, c, body, next => do
    let goesOn ← match c with
      | some c => do
        let v ← evaluate fuel c
        pure v.isTrue
      | none => pure true
    if goesOn then
      if ← inside fuel body then
        if let some e := next then let _ ← evaluate fuel e
        whileTrue fuel c body next

def eachKey : Nat → Expression → List String → Statement → Act Unit
  | 0, _, _, _ => throw .crash
  | fuel + 1, target, keys, body => do
    match keys with
    | [] => pure ()
    | k :: rest =>
      assign (← placeOf fuel target) (.text k)
      if ← inside fuel body then eachKey fuel target rest body

end

def applyRules : List Rule → Act Unit
  | [] => pure ()
  | r :: rest => do
    let chosen ←
      match r.pattern with
      | .atStart | .atEnd => pure false
      | .always => pure true
      | .fits e => do
        let v ← evaluate maxRounds e
        pure v.isTrue
      | .range first last n => do
        let isInside := (← get).inRange.getD n false
        let begins ← if isInside then pure true else do
          let v ← evaluate maxRounds first
          pure v.isTrue
        if begins then
          let ends ← evaluate maxRounds last
          modify fun w => { w with inRange := w.inRange.setIfInBounds n (!ends.isTrue) }
        pure begins
    if chosen then
      match r.body with
      | some ss => run maxRounds ss
      | none => execute maxRounds (.print [] none)
    applyRules rest

def eachRecord (rules : List Rule) : Nat → Act Unit
  | 0 => pure ()
  | fuel + 1 => do
    breathe
    match ← nextRecord maxRounds with
    | none => pure ()
    | some text =>
      setRecord text
      match ← ExceptT.lift (ExceptT.run (applyRules rules)) with
      | .ok () | .error .next => eachRecord rules fuel
      | .error .nextFile =>
        closeMain
        eachRecord rules fuel
      | .error d => throw d

def runAll (rules : List Rule) (isWanted : Pattern → Bool) : Act Unit := do
  for r in rules do
    if isWanted r.pattern then run maxRounds (r.body.getD [])

/-- Runs the program. Whether it is left early or not, what is to be done at the end is done, unless
something went wrong. -/
def whole : Act Unit := do
  let rules := (← get).program.rules
  let isStart : Pattern → Bool
    | .atStart => true
    | _ => false
  let isEnd : Pattern → Bool
    | .atEnd => true
    | _ => false
  let reads := rules.any fun r => !isStart r.pattern
  let main : Act Unit := do
    runAll rules isStart
    if reads then eachRecord rules maxRounds
  match ← ExceptT.lift (ExceptT.run main) with
  | .error .crash => closeAll
  | _ =>
    let _ ← ExceptT.lift (ExceptT.run (runAll rules isEnd))
    closeAll

end Act

end ServerKeeper.Tool.Records
