import Std.Data.HashMap
import ServerKeeper.Tool.Records.Value

namespace ServerKeeper.Tool.Records

inductive Key
  | text (s : String)
  | number (n : Int)

namespace Key

def toText : Key → String
  | text s => s
  | number n => toString n

end Key

structure Table where
  values : Std.HashMap String Value
  texts : Array (List String)
  numbers : Array (List Int)
  hasTexts : Bool
  hasNumbers : Bool

namespace Table

def firstSize : Nat := 64

def crowd : Nat := 12

def empty : Table :=
  ⟨∅, Array.replicate firstSize [], Array.replicate firstSize [], false, false⟩

instance : Inhabited Table := ⟨empty⟩

def size (t : Table) : Nat := t.values.size

/-- The hash of a text: each byte is mixed into a word of 32 bits, which is then multiplied. -/
def hash (s : String) : UInt32 :=
  s.foldl (fun h c => (h ^^^ UInt32.ofNat c.toNat) * 16777619) 2166136261

def textPlace (t : Table) (s : String) : Nat := (hash s).toNat % t.texts.size

def numberPlace (t : Table) (n : Int) : Nat := (n % t.numbers.size).toNat

def withTexts (t : Table) : Table :=
  if t.hasTexts then t
  else
    let keys := t.numbers.toList.flatMap id
    let texts := keys.foldl
      (fun texts n =>
        let s := toString n
        let place := textPlace t s
        if (texts.getD place []).contains s then texts
        else texts.modify place (s :: ·))
      t.texts
    { t with texts, hasTexts := true }

def toFront {α : Type} [BEq α] (a : α) (l : List α) : List α :=
  match l with
  | b :: _ => if b == a then l else a :: l.filter (· != a)
  | [] => [a]

def doubled (t : Table) : Table :=
  let old := t.texts.size
  let new := 2 * old
  let split {α : Type} (place : α → Nat) (lists : Array (List α)) : Array (List α) :=
    let parts := lists.mapIdx fun i l => l.partition fun a => place a % new = i
    parts.map (·.1) ++ parts.map (·.2)
  { t with
    texts := split (fun s => (hash s).toNat) t.texts
    numbers := split (fun n => (n % new).toNat) t.numbers }

def spread (t : Table) : Table := if t.texts.size * crowd < t.size then t.doubled else t

def useText (t : Table) (s : String) : Table :=
  let t := if t.hasTexts then t else t.withTexts
  let isNew := !t.values.contains s
  let t := if isNew then { t with values := t.values.insert s .nothing } else t
  let t := if isNew then t.spread else t
  { t with texts := t.texts.modify (textPlace t s) (toFront s) }

def useNumber (t : Table) (n : Int) : Table :=
  let known := (t.numbers.getD (numberPlace t n) []).contains n
  let t :=
    if known then t
    else if t.hasTexts then t.useText (toString n)
    else
      let t := { t with values := t.values.insert (toString n) .nothing }
      t.spread
  { t with numbers := t.numbers.modify (numberPlace t n) (toFront n), hasNumbers := true }

def contains (t : Table) (k : Key) : Bool := t.values.contains k.toText

/-- The value at a key, and the table with the key in front. A key that was not there is there then.
-/
def get (t : Table) (k : Key) : Value × Table :=
  let t := match k with
    | .text s => t.useText s
    | .number n => t.useNumber n
  (t.values.getD k.toText .nothing, t)

def set (t : Table) (k : Key) (v : Value) : Table :=
  let t := match k with
    | .text s => t.useText s
    | .number n => t.useNumber n
  { t with values := t.values.insert k.toText v }

def look (t : Table) (k : Key) : Bool × Table :=
  if t.contains k then
    (true, match k with
      | .text s => t.useText s
      | .number n => t.useNumber n)
  else
    (false, match k with
      | .text _ => t.withTexts
      | .number _ => t)

def erase (t : Table) (k : Key) : Table :=
  let s := k.toText
  if !t.values.contains s then t
  else
    let t := { t with values := t.values.erase s }
    if t.size = 0 then empty
    else
      let texts := t.texts.modify (textPlace t s) (·.filter (· != s))
      let numbers :=
        match s.toInt? with
        | some n =>
          if toString n == s then t.numbers.modify (numberPlace t n) (·.filter (· != n))
          else t.numbers
        | none => t.numbers
      { t with texts, numbers }

def keys (t : Table) : List String × Table :=
  if t.size = 0 then ([], t)
  else
    let t := t.withTexts
    (t.texts.toList.flatMap id, t)

def ofList (vs : List Value) : Table :=
  let n := vs.length
  if n = 0 then empty
  else
    let rec grown : Nat → Nat → Nat
      | 0, size => size
      | fuel + 1, size => if size * crowd < n then grown fuel (2 * size) else size
    let size := grown 64 firstSize
    let (values, numbers, _) := vs.foldl
      (fun (values, numbers, i) v =>
        let place := i % size
        (Std.HashMap.insert values (toString i) v,
          Array.modify numbers place fun l => (i : Int) :: l, i + 1))
      ((∅ : Std.HashMap String Value), Array.replicate size [], 1)
    ⟨values, Array.replicate size [], numbers, false, true⟩

end Table

end ServerKeeper.Tool.Records
