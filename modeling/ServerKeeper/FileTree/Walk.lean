import ServerKeeper.FileTree.Basic
import ServerKeeper.Path

namespace ServerKeeper.FileTree

/-- Where a path ends: a location, what stands there, and whether a slash follows. -/
structure Place where
  location : Location
  entry : Option Entry
  slash : Bool

def steps (path : String) : List String :=
  let names := Path.segments path
  -- a slash at the end asks for a directory
  if names ≠ [] ∧ path.toList.getLast? = some '/' then names ++ [""] else names

def maxName : Nat := 255

def maxPath : Nat := 4095

def maxLinks : Nat := 40

def linkSteps (target : String) (rest : List String) : List String :=
  if rest = [] then steps target else Path.segments target ++ rest

def linkStart (here : Location) (target : String) : Location :=
  if Path.isAbsolute target then [] else here

/-- Goes over names, starting in a directory. `onLink` takes over where a link has to be followed;
the last entry is a link only if `followLast` is false. -/
def follow (t : FileTree) (followLast : Bool)
    (onLink : Location → List String → Except FileFault Place) :
    Location → List String → Except FileFault Place
  | here, [] =>
    match t.find? here with
    | some e => .ok ⟨here, some e, false⟩
    | none => .error .notFound
  | here, name :: rest =>
    if name = "" ∨ name = "." then follow t followLast onLink here rest
    else if name = ".." then follow t followLast onLink here.dropLast rest
    else if maxName < name.utf8ByteSize then .error .nameTooLong
    else
      let l := here ++ [name]
      match t.find? l with
      | none =>
        if rest = [] ∨ rest = [""] then .ok ⟨l, none, rest ≠ []⟩ else .error .notFound
      | some (.directory _) => follow t followLast onLink l rest
      | some (.link target) =>
        if rest = [] ∧ followLast = false then .ok ⟨l, some (.link target), false⟩
        else if target = "" then .error .notFound
        else onLink (linkStart here target) (linkSteps target rest)
      | some (.file content mode) =>
        if rest = [] ∨ rest = [""] then .ok ⟨l, some (.file content mode), rest ≠ []⟩
        else .error .notADirectory

def walk (t : FileTree) (followLast : Bool) : Nat → Location → List String → Except FileFault Place
  | 0 => follow t followLast fun _ _ => .error .tooManyLinks
  | links + 1 => follow t followLast (walk t followLast links)

def origin (t : FileTree) (path : String) : Location :=
  if Path.isAbsolute path then [] else t.current

/-- Whether names lead on from a directory. Where that is gone only `..` does, to what is above. -/
def leadsOn (t : FileTree) : Location → List String → Bool
  | here, [] => t.hasDirectory here
  | here, name :: rest =>
    t.hasDirectory here ||
      if name = "" ∨ name = "." then leadsOn t here rest
      else name == ".." && leadsOn t here.dropLast rest

def start (t : FileTree) (path : String) (names : List String) : Except FileFault Location :=
  if t.leadsOn (t.origin path) names then .ok (t.origin path) else .error .notFound

def checkPath (path : String) : Except FileFault Unit :=
  if path.toList.contains '\x00' then .error .nulInPath
  else if path = "" then .error .notFound
  else if maxPath < path.utf8ByteSize then .error .nameTooLong
  else .ok ()

def approach (t : FileTree) (followLast : Bool) (path : String) (names : List String) :
    Except FileFault Place := do
  checkPath path
  walk t followLast maxLinks (← t.start path names) names

def place (t : FileTree) (followLast : Bool) (path : String) : Except FileFault Place :=
  t.approach followLast path (steps path)

/-- The place of a path that has something there; behind a slash that is a directory. -/
def existing (t : FileTree) (followLast : Bool) (path : String) :
    Except FileFault (Location × Entry) := do
  let p ← t.place followLast path
  match p.entry with
  | none => .error .notFound
  | some e => if p.slash && !e.isDirectory then .error .notADirectory else .ok (p.location, e)

end ServerKeeper.FileTree
