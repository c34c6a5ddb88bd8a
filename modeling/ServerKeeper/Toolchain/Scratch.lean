import ServerKeeper.Text.Lossy
import ServerKeeper.Toolchain.Runner

namespace ServerKeeper.Toolchain

/-- A directory for the time of one call: the path to it from the root, made of names as a tree has
them, and where it stands. -/
structure Scratch where
  path : String
  location : Location
  mode : Nat
  deriving DecidableEq, Repr

/-- Who makes scratch directories. What it does may depend on the calls so far. -/
structure ScratchSource where
  root : String
  make : List Call → FileTree → Except String Scratch
  drop : Scratch → FileTree → FileTree

/-- A name as a text. One that is not Unicode stands in a tree as its bytes behind a NUL, which no
path can be given; as a text it loses what is not Unicode. -/
def shownName : List Char → List Char
  | '\x00' :: bytes => Text.lossyChars none (bytes.map fun c => UInt8.ofNat c.toNat)
  | name => name

def Scratch.text (s : Scratch) : String :=
  String.ofList (['/'].intercalate ((Text.splitOn '/' s.path.toList).map shownName))

def Scratch.putInto (s : Scratch) (files : FileTree) : FileTree :=
  files.put s.location (.directory s.mode)

def makeScratch (source : ScratchSource) : Action Scratch := fun m =>
  match source.make m.calls m.files with
  | .ok scratch => .ok scratch { m with files := scratch.putInto m.files }
  | .error reason => .error (.io ("Failed to create toolchain scratch directory: " ++ reason)) m

def dropScratch (source : ScratchSource) (scratch : Scratch) (m : Machine) : Machine :=
  { m with files := source.drop scratch m.files }

/-- Does something with a scratch directory, which is dropped at the end whatever came of it. -/
def withScratch {α : Type} (source : ScratchSource) (body : Scratch → Action α) : Action α := fun m =>
  match makeScratch source m with
  | .error e m => .error e m
  | .ok scratch m =>
    match body scratch m with
    | .ok a m => .ok a (dropScratch source scratch m)
    | .error e m => .error e (dropScratch source scratch m)

end ServerKeeper.Toolchain
