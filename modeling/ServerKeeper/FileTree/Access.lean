import ServerKeeper.FileTree.Walk

namespace ServerKeeper.FileTree

def isDirectory (t : FileTree) (path : String) : Bool :=
  match t.existing true path with
  | .ok (_, e) => e.isDirectory
  | .error _ => false

/-- Whether a path leads to a regular file that someone may execute. -/
def isExecutable (t : FileTree) (path : String) : Bool :=
  match t.existing true path with
  | .ok (_, e) => e.isExecutable
  | .error _ => false

def readBytes (t : FileTree) (path : String) : Except FileFault ByteArray := do
  match ← t.existing true path with
  | (_, .file content _) => .ok content
  | _ => .error .isADirectory

def readText (t : FileTree) (path : String) : Except FileFault String := do
  match String.fromUTF8? (← t.readBytes path) with
  | some text => .ok text
  | none => .error .notText

def newFileMode : Nat := 0o644

def newDirectoryMode : Nat := 0o755

/-- The tree after a file was written: a new one, or the one that was there, with its mode. -/
def writeBytes (t : FileTree) (path : String) (content : ByteArray) :
    Except FileFault FileTree := do
  let p ← t.place true path
  if p.slash then .error .isADirectory
  else
    match p.entry with
    | none => .ok (t.put p.location (.file content newFileMode))
    | some (.file _ mode) => .ok (t.put p.location (.file content mode))
    | some _ => .error .isADirectory

def writeText (t : FileTree) (path text : String) : Except FileFault FileTree :=
  t.writeBytes path text.toUTF8

def bareSteps (path : String) : List String :=
  Path.segments path

/-- The tree after a directory was made. Anything that stands there already is in the way, a link
too. -/
def makeDirectory (t : FileTree) (path : String) (mode : Nat) : Except FileFault FileTree := do
  let p ← t.approach false path (bareSteps path)
  match p.entry with
  | some _ => .error .alreadyExists
  | none => .ok (t.put p.location (.directory mode))

/-- Makes a directory and those above it that are missing; `above` bounds how many. The directories
made before a fault stay. -/
def makeDirectoriesFrom (t : FileTree) : Nat → String → Except FileFault Unit × FileTree
  | above, path =>
    if path = "" then (.ok (), t)
    else
      match t.makeDirectory path newDirectoryMode with
      | .ok t => (.ok (), t)
      | .error .notFound =>
        match above, Path.parent? path with
        | above + 1, some parent =>
          match t.makeDirectoriesFrom above parent with
          | (.error fault, t) => (.error fault, t)
          | (.ok (), t) =>
            match t.makeDirectory path newDirectoryMode with
            | .ok t => (.ok (), t)
            | .error fault => (if t.isDirectory path then .ok () else .error fault, t)
        | _, _ => (.error .notFound, t)
      | .error fault => (if t.isDirectory path then .ok () else .error fault, t)

def makeDirectories (t : FileTree) (path : String) : Except FileFault Unit × FileTree :=
  t.makeDirectoriesFrom (Path.components path).length path

def removeEmptied (t : FileTree) (path : String) (l : Location) :
    Except FileFault Unit × FileTree :=
  match t.approach false path (bareSteps path) with
  | .ok ⟨_, some e, _⟩ =>
    -- a path that ends in dots, or a link with a slash behind it, does not name the directory
    match (Path.segments path).getLast?, e with
    | none, _ => (.error .busy, t)
    | some ".", _ => (.error .invalidArgument, t)
    | some "..", _ => (.error .notEmpty, t)
    | some _, .link _ => (.error .notADirectory, t)
    | some _, _ => (.ok (), t.prune l)
  -- the path went over what was emptied, which is gone with all that it led to
  | _ => (.ok (), t)

/-- Removes a directory with all below it, or a link. Links inside are not followed. -/
def removeTree (t : FileTree) (path : String) : Except FileFault Unit × FileTree :=
  match t.existing false path with
  | .error fault => (.error fault, t)
  | .ok (l, .link _) => (.ok (), t.prune l)
  | .ok (_, .file _ _) => (.error .notADirectory, t)
  | .ok (l, .directory _) => (t.clear l).removeEmptied path l

def namesIn (t : FileTree) (l : Location) : List String :=
  let names := t.entries.filterMap fun (l', _) =>
    if l'.dropLast = l ∧ l' ≠ [] then l'.getLast? else none
  names.mergeSort (· ≤ ·)

def locationText (l : Location) : String :=
  "/" ++ "/".intercalate l

end ServerKeeper.FileTree
