import ServerKeeper.FileTree.Access

namespace ServerKeeper

inductive Placement
  | file (path : String) (content : ByteArray) (mode : Nat)
  | directory (path : String) (mode : Nat)
  | link (path target : String)
  | mode (path : String) (mode : Nat)
  | remove (path : String)

namespace FileTree

def setMode (t : FileTree) (path : String) (mode : Nat) : Except FileFault FileTree := do
  match ← t.existing true path with
  | (l, .file content _) => .ok (t.put l (.file content mode))
  | (l, .directory _) => .ok (if l = [] then t else t.put l (.directory mode))
  | (_, .link _) => .ok t

def makeLink (t : FileTree) (path target : String) : Except FileFault FileTree := do
  let p ← t.place false path
  match p.entry with
  | some _ => .error .alreadyExists
  | none => if p.slash then .error .notFound else .ok (t.put p.location (.link target))

/-- Takes away what a path names, whatever it is; a link is not followed. -/
def remove (t : FileTree) (path : String) : FileTree :=
  match t.existing false path with
  | .ok (l, _) => t.prune l
  | .error _ => t

def makeParents (t : FileTree) (path : String) : FileTree :=
  match Path.parent? path with
  | some parent => (t.makeDirectories parent).2
  | none => t

def orSame (t : FileTree) (result : Except FileFault FileTree) : FileTree :=
  match result with
  | .ok t => t
  | .error _ => t

def place1 (t : FileTree) : Placement → FileTree
  | .file path content mode =>
    let t := t.makeParents path
    let t := t.orSame (t.writeBytes path content)
    t.orSame (t.setMode path mode)
  | .directory path mode =>
    let t := (t.makeDirectories path).2
    t.orSame (t.setMode path mode)
  | .link path target =>
    let t := t.makeParents path
    t.orSame (t.makeLink path target)
  | .mode path mode => t.orSame (t.setMode path mode)
  | .remove path => t.remove path

def layOut (t : FileTree) (ps : List Placement) : FileTree :=
  ps.foldl place1 t

end FileTree

end ServerKeeper
