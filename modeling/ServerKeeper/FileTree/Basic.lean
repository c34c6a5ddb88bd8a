import ServerKeeper.FileTree.Fault

namespace ServerKeeper

abbrev Location := List String

local instance (priority := high) decideContent : DecidableEq ByteArray := ByteArray.instDecidableEq

inductive Entry
  | file (content : ByteArray) (mode : Nat)
  | directory (mode : Nat)
  | link (target : String)
  deriving DecidableEq

namespace Entry

def isDirectory : Entry → Bool
  | directory _ => true
  | _ => false

def isExecutable : Entry → Bool
  | file _ mode => mode &&& 0o111 != 0
  | _ => false

end Entry

/-- The files of a machine as a process sees them that has all rights: modes are kept, and a file
may be run if its mode says so, but no mode keeps anyone from reading, writing or removing. -/
structure FileTree where
  /-- Each location at most once; the root itself is not listed. -/
  entries : List (Location × Entry)
  current : Location

namespace FileTree

def find? (t : FileTree) (l : Location) : Option Entry :=
  if l = [] then some (.directory 0o755) else t.entries.lookup l

def hasDirectory (t : FileTree) (l : Location) : Bool :=
  (t.find? l).any Entry.isDirectory

def put (t : FileTree) (l : Location) (e : Entry) : FileTree :=
  { t with entries := (l, e) :: t.entries.filter (·.1 != l) }

def clear (t : FileTree) (l : Location) : FileTree :=
  { t with entries := t.entries.filter fun p => !(l.isPrefixOf p.1 && p.1 != l) }

def prune (t : FileTree) (l : Location) : FileTree :=
  { t with entries := t.entries.filter fun p => !l.isPrefixOf p.1 }

end FileTree

end ServerKeeper
