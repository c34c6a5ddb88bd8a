import ServerKeeper.FileTree.Layout
import ServerKeeper.Toolchain.Runner

namespace ServerKeeper.Toolchain

/-- The answer to one command: what is first done to the files, and then a failure or an output. -/
structure Response where
  layout : List Placement
  failure : Option String
  output : Output

def Response.silence : Response := ⟨[], none, ⟨"", "", none⟩⟩

structure Rehearsal where
  found : Option String
  responses : List Response

namespace Rehearsal

def isRun : Call → Bool
  | .run .. => true
  | .find _ => false

def runner (r : Rehearsal) : Runner where
  find := fun _ _ _ => r.found
  run := fun calls files _ =>
    let response := r.responses[calls.countP isRun]?.getD .silence
    let files := files.layOut response.layout
    match response.failure with
    | some reason => (.error (.io reason), files)
    | none => (.ok response.output, files)

/-- Lays down more answers after some calls. A command that was met by silence has had its answer.
-/
def extend (r : Rehearsal) (calls : List Call) (more : List Response) : Rehearsal :=
  let missed := calls.countP isRun - r.responses.length
  { r with responses := r.responses ++ List.replicate missed .silence ++ more }

end Rehearsal

end ServerKeeper.Toolchain
