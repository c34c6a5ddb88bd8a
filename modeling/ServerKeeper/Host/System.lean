import ServerKeeper.FileTree.Search
import ServerKeeper.Host.Image
import ServerKeeper.Host.Exchange
import ServerKeeper.Host.Kernel.Schedule
import ServerKeeper.Tool.Launch
import ServerKeeper.Toolchain.Runner

namespace ServerKeeper.Host

def hasNul (s : String) : Bool := s.contains '\x00'

def commandHasNul (c : Toolchain.Command) : Bool :=
  hasNul c.program || c.arguments.any hasNul ||
    c.bindings.any fun (name, value) => hasNul name || hasNul value

def overlay (inherited bindings : List (String × String)) : List (String × String) :=
  let all :=
    bindings.foldl (fun vs (name, value) => (name, value) :: vs.filter (·.1 != name)) inherited
  all.mergeSort fun a b => a.1 ≤ b.1

def beginning : Moment := 1750000000000000000

def firstTask : Nat := 1

def initial (files : FileTree) : Kernel :=
  let (disk, here) := Disk.ofTree beginning files
  let null := ((disk.find? Disk.root "dev").bind (disk.find? · "null")).getD Disk.root
  let file (object : Object) (reads : Bool) : OpenFile := ⟨object, 0, reads, !reads, false, 1⟩
  { disk
    tasks := [(firstTask,
      { parent := Kernel.outside
        group := Kernel.outside
        niceness := 0
        process := .exit 0
        descriptors := [⟨0, 1, false⟩, ⟨1, 2, false⟩, ⟨2, 3, false⟩]
        directory := here
        mask := 0o022
        reactions := []
        pending := []
        progress := .none
        ended := none })]
    files := [(1, file (.node null) true), (2, file (.collector 0) false),
      (3, file (.collector 1) false)]
    pipes := []
    collected := []
    ready := []
    waiting := []
    stirred := false
    clock := beginning
    busy := 0
    fresh := 4 }

/-- The program that a command asks for. A search path among the command's own variables is the one
that counts, and then a file of no known format is read by the shell. -/
def programOf (k : Kernel) (bindings : List (String × String)) (c : Toolchain.Command) :
    Except FileFault (String × List String) := do
  if commandHasNul c then throw .nulInCommand
  let isPath := c.program.contains '/'
  let inShell := !isPath && c.bindings.any (·.1 == "PATH")
  if !isPath && FileTree.maxName < c.program.utf8ByteSize then throw .nameTooLong
  let paths :=
    if c.program.isEmpty then []
    else candidates ((bindings.lookup "PATH").getD defaultPath) c.program
  let arguments := (c.program :: c.arguments).map Text.encode
  let found ← firstProgram k firstTask inShell arguments .notFound (paths.map Text.encode)
  let encoded := bindings.map fun (name, value) => (Text.encode name, Text.encode value)
  if Image.isOversized arguments encoded then throw .tooManyArguments
  return found

def exitCodeOf : Ending → Option Int32
  | .exited n => some (Int32.ofNat n)
  | .killed _ => none

def execute (k : Kernel) (program : String × List String) (bindings : List (String × String))
    (files : FileTree) : Toolchain.Output × FileTree :=
  let encoded := bindings.map fun (name, value) => (Text.encode name, Text.encode value)
  let p := Tool.launch program.1 program.2 encoded
  let k := Kernel.run Tool.launch Kernel.maxTurns (some (firstTask, p)) Kernel.patience k
  let text (index : Nat) : String :=
    Text.lossy ((k.collected.lookup index).getD .empty).toList
  let exit := ((k.task firstTask).ended.map exitCodeOf).getD none
  (⟨text 0, text 1, exit⟩, k.disk.toTree files.current)

def system (inherited : List (String × String)) : Toolchain.Runner where
  find := fun _ files program => files.findProgram program (inherited.lookup "PATH")
  run := fun _ files c =>
    let k := initial files
    let bindings := overlay inherited c.bindings
    match programOf k bindings c with
    | .ok program =>
      let (output, files) := execute k program bindings files
      (.ok output, files)
    | .error fault =>
      (.error (.io ("Failed to spawn '" ++ c.program ++ "': " ++ fault.message)), files)

end ServerKeeper.Host
