import ServerKeeper.CommandLine.Execution
import ServerKeeper.FileTree.Layout
import ServerKeeper.Host.Tools

namespace ServerKeeper.CommandLine

inductive Finding
  | nothing
  | file (content : ByteArray)
  | directory

/-- The paths that a call looks at, besides the directories above them. -/
def consulted (s : Surroundings) (searchPath : Option String) (a : Arguments) : List String :=
  match storageRoot s a with
  | .error _ => a.settings.toList ++ a.releases.toList
  | .ok root =>
    let c := Config.ofRoot root
    let toolchains := ((searchPath.map Path.searchList).getD []).map (Path.join · c.toolchain)
    a.settings.toList ++ a.releases.toList ++
      [s.scratch.root, c.baseDir, c.markerPath, c.managedBinaryPath] ++ toolchains

def isProgram (content : ByteArray) : Bool :=
  let head := (content.extract 0 4).toList
  [0x23, 0x21].isPrefixOf head || Host.machineMark.isPrefixOf head

def addFinding (t : FileTree) (found : String × Finding) : FileTree :=
  match found with
  | (_, .nothing) => t
  | (path, .directory) => t.layOut [.directory path FileTree.newDirectoryMode]
  | (path, .file content) =>
    let mode := if isProgram content then 0o755 else FileTree.newFileMode
    t.layOut [.file path content mode]

def snapshot (found : List (String × Finding)) : FileTree :=
  found.foldl addFinding Host.files

/-- A path that leads to a location, relative below the working directory. -/
def pathOf (l : Location) : String :=
  if Host.workPlace.isPrefixOf l then "/".intercalate (l.drop Host.workPlace.length)
  else FileTree.locationText l

inductive Change
  | remove (path : String)
  | makeDirectory (path : String)
  | write (path : String) (content : ByteArray) (executable : Bool)

/-- The changes from one tree to another: what goes away, and then what is new or different. -/
def changes (before after : FileTree) : List Change :=
  let gone := before.entries.filter fun p => (after.find? p.1).isNone
  let fresh := after.entries.filter fun p => before.find? p.1 != some p.2
  let sorted := fresh.mergeSort fun p q => p.1.length ≤ q.1.length
  (gone.map fun p => .remove (pathOf p.1)) ++ sorted.filterMap fun (l, e) =>
    match e with
    | .directory _ => some (.makeDirectory (pathOf l))
    | .file content _ => some (.write (pathOf l) content e.isExecutable)
    | .link _ => none

end ServerKeeper.CommandLine
