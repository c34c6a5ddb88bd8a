import ServerKeeper.Json.Skip
import ServerKeeper.Json.Typed

namespace ServerKeeper.Json

structure Field (σ : Type) where
  name : String
  given : σ → Bool
  read : Nat → σ → Reader σ
  omissible : Bool

def Field.of {σ α : Type} (name : String) (get : σ → Option α) (put : σ → α → σ) (read : Typed α)
    (omissible : Bool) : Field σ where
  name := name
  given := fun fields => (get fields).isSome
  read := fun room fields s => do
    let (a, s) ← read room s
    .ok (put fields a, s)
  omissible := omissible

structure Record (σ α : Type) where
  title : String
  fields : List (Field σ)
  start : σ
  /-- The record of the fields that were read, or the first one that is missing. -/
  finish : σ → Except String α

namespace Record

variable {σ α : Type}

def listTitle (r : Record σ α) : String :=
  r.title ++ " with " ++ toString r.fields.length ++
    (if r.fields.length = 1 then " element" else " elements")

def readMembersFrom (fields : List (Field σ)) (room : Nat) : Nat → Bool → σ → Reader σ
  | 0, _, _, s => .error (.here (.unfinished .object) s)
  | fuel + 1, first, done, s => do
    match ← nextKey first s with
    | none => .ok (done, s)
    | some s =>
      let (key, s) ← readQuoted s
      match fields.find? (·.name == key) with
      | some field =>
        if field.given done then .error (atBracket '\x7d' (.duplicateField key) s)
        else
          let (_, s) ← readColon s
          let (done, s) ← field.read room done s
          readMembersFrom fields room fuel false done s
      | none =>
        let (_, s) ← readColon s
        let (_, s) ← skipValue s
        readMembersFrom fields room fuel false done s

/-- The fields of a list, in their order; `index` counts the ones read. -/
def readFieldsFrom (r : Record σ α) (room index : Nat) (first : Bool) :
    List (Field σ) → σ → Reader σ
  | [], done, s => .ok (done, s)
  | field :: rest, done, s => do
    match ← nextElement first s with
    | some s =>
      let (done, s) ← field.read room done s
      readFieldsFrom r room (index + 1) false rest done s
    | none =>
      if field.omissible then readFieldsFrom r room (index + 1) first rest done s
      else .error (atBracket ']' (.invalidLength index r.listTitle) s)

def finishAt (r : Record σ α) (bracket : Char) (done : σ) (s : List Char) : Except Fault α :=
  match r.finish done with
  | .ok a => .ok a
  | .error name => .error (atBracket bracket (.missingField name) s)

def read (r : Record σ α) : Typed α := fun room s =>
  match dropSpace s with
  | '[' :: s => do
    let room ← openBracket room ('[' :: s)
    let (done, s) ← r.readFieldsFrom room 0 true r.fields r.start s
    let a ← r.finishAt ']' done s
    let (_, s) ← endList s
    .ok (a, s)
  | '\x7b' :: s => do
    let room ← openBracket room ('\x7b' :: s)
    let (done, s) ← readMembersFrom r.fields room (s.length + 1) true r.start s
    let a ← r.finishAt '\x7d' done s
    let (_, s) ← endObject s
    .ok (a, s)
  | s => .error (unexpected r.title s)

end Record

end ServerKeeper.Json
