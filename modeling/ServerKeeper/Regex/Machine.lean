import ServerKeeper.Regex.Node

namespace ServerKeeper.Regex

inductive Step
  | char (c : Char)
  | set (s : ByteSet)
  | edge (e : Edge)
  | fork (first second : Nat)
  | jump (target : Nat)
  | save (slot : Nat)
  | progress (slot : Nat)
  | reference (number : Nat)
  | done

instance : Inhabited Step := ⟨.done⟩

structure Compiled where
  steps : Array Step
  groups : Nat
  slots : Nat
  hasReference : Bool
  ignoresCase : Bool
  isByLine : Bool

/-- How far the steps of an expression have got: the steps, and the number of slots. -/
structure Draft where
  steps : Array Step
  slots : Nat

namespace Draft

def add (d : Draft) (s : Step) : Draft := { d with steps := d.steps.push s }

def put (d : Draft) (i : Nat) (s : Step) : Draft := { d with steps := d.steps.setIfInBounds i s }

def size (d : Draft) : Nat := d.steps.size

def repeated (f : Draft → Draft) : Nat → Draft → Draft
  | 0, d => d
  | n + 1, d => repeated f n (f d)

def perhaps (f : Draft → Draft) (d : Draft) : Draft :=
  let at_ := d.size
  let d := f (d.add .done)
  d.put at_ (.fork (at_ + 1) d.size)

def nested (f : Draft → Draft) : Nat → Draft → Draft
  | 0, d => d
  | n + 1, d => perhaps (fun d => nested f n (f d)) d

def looped (f : Draft → Draft) (d : Draft) : Draft :=
  let slot := d.slots
  let start := d.size
  let d := f (({ d with slots := slot + 1 }.add .done).add (.save slot))
  let d := (d.add (.progress slot)).add (.jump start)
  d.put start (.fork (start + 1) d.size)

def compile : Node → Draft → Draft
  | .empty, d => d
  | .char c, d => d.add (.char c)
  | .set s, d => d.add (.set s)
  | .edge e, d => d.add (.edge e)
  | .reference n, d => d.add (.reference n)
  | .sequence a b, d => compile b (compile a d)
  | .choice a b, d =>
    let start := d.size
    let d := compile a (d.add .done)
    let middle := d.size
    let d := compile b (d.add .done)
    (d.put start (.fork (start + 1) (middle + 1))).put middle (.jump d.size)
  | .group n body, d => (compile body (d.add (.save (2 * n)))).add (.save (2 * n + 1))
  | .times least most body, d =>
    let d := repeated (compile body) least d
    match most with
    | none => looped (compile body) d
    | some most => nested (compile body) (most - least) d

end Draft

def compiled (node : Node) (groups : Nat) (ignoresCase isByLine : Bool) : Compiled :=
  let d := (Draft.compile node ⟨#[], 2 * groups + 2⟩).add .done
  ⟨d.steps, groups, d.slots, node.hasReference, ignoresCase, isByLine⟩

structure Match where
  start : Nat
  stop : Nat
  slots : Array (Option Nat)

namespace Match

def group? (m : Match) (n : Nat) : Option (Nat × Nat) :=
  if n = 0 then some (m.start, m.stop)
  else
    match m.slots.getD (2 * n) none, m.slots.getD (2 * n + 1) none with
    | some a, some b => if a ≤ b then some (a, b) else none
    | _, _ => none

end Match

def slice (text : Array Char) (start stop : Nat) : String :=
  String.ofList (text.extract start stop).toList

namespace Compiled

def holds (e : Edge) (isByLine : Bool) (text : Array Char) (i : Nat) : Bool :=
  let before := i > 0 && isWord (text.getD (i - 1) ' ')
  let behind := i < text.size && isWord (text.getD i ' ')
  match e with
  | .lineStart => i = 0 || isByLine && text.getD (i - 1) ' ' = '\n'
  | .lineEnd => i = text.size || isByLine && text.getD i ' ' = '\n'
  | .textStart => i = 0
  | .textEnd => i = text.size
  | .wordStart => !before && behind
  | .wordEnd => before && !behind
  | .word => before != behind
  | .notWord => before == behind
  | .noWordBefore => !before
  | .noWordBehind => !behind

structure Thread where
  step : Nat
  place : Nat
  slots : Array (Option Nat)

/-- Where steps were taken: a step and a place count as taken if they bear the current number. -/
structure Marks where
  numbers : Array Nat
  current : Nat

structure Search where
  threads : List Thread
  marks : Marks
  best : Option (Nat × Array (Option Nat))

def recurs (c : Compiled) (text : Array Char) (start stop i : Nat) : Bool :=
  i + (stop - start) ≤ text.size &&
    (List.range (stop - start)).all fun k =>
      let a := text.getD (start + k) ' '
      let b := text.getD (i + k) ' '
      a = b || c.ignoresCase && lowered a = lowered b

def advance (c : Compiled) (text : Array Char) (t : Thread) : List Thread :=
  let next : Thread := { t with step := t.step + 1 }
  match c.steps.getD t.step .done with
  | .char a =>
    if t.place < text.size && text.getD t.place ' ' = a then
      [{ next with place := t.place + 1 }]
    else []
  | .set s =>
    if t.place < text.size && s.contains (text.getD t.place ' ') then
      [{ next with place := t.place + 1 }]
    else []
  | .edge e => if holds e c.isByLine text t.place then [next] else []
  | .fork first second => [{ t with step := first }, { t with step := second }]
  | .jump target => [{ t with step := target }]
  | .save slot => [{ next with slots := t.slots.setIfInBounds slot (some t.place) }]
  | .progress slot => if t.slots.getD slot none = some t.place then [] else [next]
  | .reference n =>
    match t.slots.getD (2 * n) none, t.slots.getD (2 * n + 1) none with
    | some a, some b =>
      if c.recurs text a b t.place then [{ next with place := t.place + (b - a) }] else []
    | _, _ => []
  | .done => []

def explore (c : Compiled) (text : Array Char) : Nat → Search → Search
  | 0, s => s
  | fuel + 1, s =>
    match s with
    | ⟨[], _, _⟩ => s
    | ⟨t :: rest, ⟨numbers, current⟩, best⟩ =>
      let index := t.step * (text.size + 1) + t.place
      if !c.hasReference && numbers.getD index 0 = current then
        explore c text fuel ⟨rest, ⟨numbers, current⟩, best⟩
      else
        let marks : Marks :=
          ⟨if c.hasReference then numbers else numbers.setIfInBounds index current, current⟩
        match c.steps.getD t.step .done with
        | .done =>
          let isBetter := best.all fun (stop, _) => stop < t.place
          let best := if isBetter then some (t.place, t.slots) else best
          if t.place = text.size then ⟨[], marks, best⟩
          else explore c text fuel ⟨rest, marks, best⟩
        | _ => explore c text fuel ⟨advance c text t ++ rest, marks, best⟩

def maxSteps : Nat := 1000000000000

def matchFrom (c : Compiled) (text : Array Char) (start : Nat) (marks : Marks) :
    Option Match × Marks :=
  let slots := Array.replicate c.slots none
  let s := explore c text maxSteps ⟨[⟨0, start, slots⟩], marks, none⟩
  (s.best.map fun (stop, slots) => ⟨start, stop, slots⟩, s.marks)

def fresh (c : Compiled) (text : Array Char) : Marks :=
  ⟨if c.hasReference then #[] else Array.replicate (c.steps.size * (text.size + 1)) 0, 1⟩

def matchAt? (c : Compiled) (text : Array Char) (start : Nat) : Option Match :=
  (c.matchFrom text start (c.fresh text)).1

/-- The first match from a place on. Places where the rest of an expression did not match are the
same for every start, so their marks stay until there is a match. -/
def searchFrom (c : Compiled) (text : Array Char) : Nat → Nat → Marks → Option Match × Marks
  | 0, _, marks => (none, marks)
  | fuel + 1, start, marks =>
    if start > text.size then (none, marks)
    else
      match c.matchFrom text start marks with
      | (some m, ⟨numbers, current⟩) => (some m, ⟨numbers, current + 1⟩)
      | (none, marks) => searchFrom c text fuel (start + 1) marks

def searchWith (c : Compiled) (text : Array Char) (start : Nat) (marks : Marks) :
    Option Match × Marks :=
  c.searchFrom text (text.size + 2) start marks

def search? (c : Compiled) (text : Array Char) (start : Nat) : Option Match :=
  (c.searchWith text start (c.fresh text)).1

def isFoundIn (c : Compiled) (text : String) : Bool :=
  (c.search? text.toList.toArray 0).isSome

end Compiled

end ServerKeeper.Regex
