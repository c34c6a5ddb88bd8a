import ServerKeeper.Json.Typed

namespace ServerKeeper.Json

inductive Payload
  | members (ms : List (String × Value))
  | elements (vs : List Value)

structure Choice (α : Type) where
  title : String
  key : String
  variants : List (String × (Payload → Except Mismatch α))

namespace Choice

variable {α : Type}

def readTag (c : Choice α) : Reader (Payload → Except Mismatch α) := fun s =>
  match dropSpace s with
  | '"' :: s => do
    let (name, s) ← readQuoted s
    match c.variants.lookup name with
    | some variant => .ok (variant, s)
    | none => .error (.here (mismatch (.unknownVariant name (c.variants.map Prod.fst))) s)
  | s => .error (unexpected "variant identifier" s)

abbrev Variant (α : Type) := Payload → Except Mismatch α

/-- Members up to the closing bracket, the tag among them, in at most `fuel` steps. -/
def readMembersFrom (c : Choice α) (room : Nat) :
    Nat → Bool → Option (Variant α) → Reader (Option (Variant α) × List (String × Value))
  | 0, _, _, s => .error (.here (.unfinished .object) s)
  | fuel + 1, first, tag, s => do
    match ← nextKey first s with
    | none => .ok ((tag, []), s)
    | some s =>
      let (key, s) ← readQuoted s
      if key == c.key then
        if tag.isSome then .error (atBracket '\x7d' (.duplicateField key) s)
        else
          let (_, s) ← readColon s
          let (variant, s) ← c.readTag s
          readMembersFrom c room fuel false (some variant) s
      else
        let (_, s) ← readColon s
        let (v, s) ← readValue room s
        let ((tag, ms), s) ← readMembersFrom c room fuel false tag s
        .ok ((tag, (key, v) :: ms), s)

def settle (variant : Variant α) (payload : Payload) : Except Fault α :=
  match variant payload with
  | .ok a => .ok a
  | .error m => .error (.placeless (mismatch m))

def read (c : Choice α) : Typed α := fun room s =>
  match dropSpace s with
  | '[' :: s => do
    let room ← openBracket room ('[' :: s)
    match ← nextElement true s with
    | none => .error (atBracket ']' (.missingField c.key) s)
    | some s =>
      let (variant, s) ← c.readTag s
      let (vs, s) ← readElements (2 * s.length + 2) room false s
      let (_, s) ← endList s
      let a ← settle variant (.elements vs)
      .ok (a, s)
  | '\x7b' :: s => do
    let room ← openBracket room ('\x7b' :: s)
    match ← readMembersFrom c room (s.length + 1) true none s with
    | ((none, _), s) => .error (atBracket '\x7d' (.missingField c.key) s)
    | ((some variant, ms), s) =>
      let (_, s) ← endObject s
      let a ← settle variant (.members ms)
      .ok (a, s)
  | s =>
    match readScalar s with
    | .error f => .error f
    | .ok (v, rest) => .error (.here (mismatch (.invalidType v.found c.title)) rest)

end Choice

/-- A field of a variant: how its value is understood, and what stands for it in an object that does
not have it. -/
structure Slot (α : Type) where
  name : String
  decode : Value → Except Mismatch α
  absent : Option α

namespace Slot

def text (name : String) : Slot String where
  name := name
  decode
    | .string s => .ok s
    | v => .error (.invalidType v.found "a string")
  absent := none

def int32? (name : String) : Slot (Option Int32) where
  name := name
  decode
    | .null => .ok none
    | .number (.integer n) =>
      if Int32.minValue.toInt ≤ n ∧ n ≤ Int32.maxValue.toInt then .ok (some (Int32.ofInt n))
      else .error (.invalidValue n "i32")
    | v => .error (.invalidType v.found "i32")
  absent := some none

end Slot

def elementCount (n : Nat) : String :=
  toString n ++ (if n = 1 then " element" else " elements")

/-- A variant without fields: members beside the tag do not matter, elements do. -/
def unitVariant {α : Type} (a : α) : Payload → Except Mismatch α
  | .members _ => .ok a
  | .elements [] => .ok a
  | .elements vs => .error (.invalidLength vs.length (elementCount 0 ++ " in sequence"))

def Slot.require {α : Type} (slot : Slot α) : Option α → Except Mismatch α
  | some a => .ok a
  | none =>
    match slot.absent with
    | some a => .ok a
    | none => .error (.missingField slot.name)

/-- The values of two slots among some members; other members do not matter. -/
def gatherTwo {α β : Type} (first : Slot α) (second : Slot β) :
    List (String × Value) → Option α → Option β → Except Mismatch (Option α × Option β)
  | [], a, b => .ok (a, b)
  | (key, v) :: rest, a, b =>
    if key = first.name then
      if a.isSome then .error (.duplicateField key)
      else do
        let x ← first.decode v
        gatherTwo first second rest (some x) b
    else if key = second.name then
      if b.isSome then .error (.duplicateField key)
      else do
        let y ← second.decode v
        gatherTwo first second rest a (some y)
    else gatherTwo first second rest a b

def gatherOne {α : Type} (slot : Slot α) :
    List (String × Value) → Option α → Except Mismatch (Option α)
  | [], a => .ok a
  | (key, v) :: rest, a =>
    if key = slot.name then
      if a.isSome then .error (.duplicateField key)
      else do
        let x ← slot.decode v
        gatherOne slot rest (some x)
    else gatherOne slot rest a

def oneField {α ρ : Type} (title : String) (slot : Slot α) (build : α → ρ) :
    Payload → Except Mismatch ρ
  | .members ms => do
    let a ← gatherOne slot ms none
    let a ← slot.require a
    .ok (build a)
  | .elements [] => .error (.invalidLength 0 (title ++ " with " ++ elementCount 1))
  | .elements (v :: rest) => do
    let a ← slot.decode v
    if rest.isEmpty then .ok (build a)
    else .error (.invalidLength (rest.length + 1) (elementCount 1 ++ " in sequence"))

def twoFields {α β ρ : Type} (title : String) (first : Slot α) (second : Slot β)
    (build : α → β → ρ) : Payload → Except Mismatch ρ
  | .members ms => do
    let (a, b) ← gatherTwo first second ms none none
    let a ← first.require a
    let b ← second.require b
    .ok (build a b)
  | .elements [] => .error (.invalidLength 0 (title ++ " with " ++ elementCount 2))
  | .elements [v] => do
    let _ ← first.decode v
    .error (.invalidLength 1 (title ++ " with " ++ elementCount 2))
  | .elements (v :: w :: rest) => do
    let a ← first.decode v
    let b ← second.decode w
    if rest.isEmpty then .ok (build a b)
    else .error (.invalidLength (rest.length + 2) (elementCount 2 ++ " in sequence"))

end ServerKeeper.Json
