import ServerKeeper.FileTree.Access
import ServerKeeper.Text.Quoted
import ServerKeeper.Toolchain.Scratch

namespace ServerKeeper.Toolchain

def absoluteRoot (files : FileTree) (root : String) : String :=
  Path.join (FileTree.locationText files.current) root

/-- The names that a call may choose from. No other call has one of these. -/
def temporaryName (call n : Nat) : String :=
  ".tmp" ++ toString call ++ "n" ++ toString n

def temporaryPath (root : String) (calls : List Call) (files : FileTree) : String :=
  let path (n : Nat) : String :=
    Path.join (absoluteRoot files root) (temporaryName calls.length n)
  let vacant (n : Nat) : Bool :=
    match files.place false (path n) with
    | .ok p => p.entry.isNone
    | .error _ => true
  -- there are fewer entries than names, so one of these is free
  path (((List.range (files.entries.length + 1)).find? vacant).getD 0)

def temporaryMode : Nat := 0o700

/-- Makes directories under a root for temporary files, and removes them by their paths. -/
def ScratchSource.under (root : String) : ScratchSource where
  root := root
  make := fun calls files =>
    let path := temporaryPath root calls files
    let failed (fault : FileFault) : Except String Scratch :=
      .error (fault.message ++ " at path " ++ Text.quoted path)
    if !Path.isAbsolute root && !(files.find? files.current).any Entry.isDirectory then
      .error FileFault.notFound.message
    else
      match files.approach false path (FileTree.bareSteps path) with
      | .error fault => failed fault
      | .ok p =>
        if p.entry.isSome then failed .alreadyExists
        else .ok ⟨path, p.location, temporaryMode⟩
  drop := fun scratch files => (files.removeTree scratch.path).2

end ServerKeeper.Toolchain
