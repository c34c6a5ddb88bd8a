import ServerKeeper.Shell.Grammar
import ServerKeeper.Shell.Job

namespace ServerKeeper.Shell

open Host

structure Manner where
  isTested : Bool
  isLast : Bool

namespace Manner

def usual : Manner := ⟨false, false⟩

def tested : Manner := ⟨true, false⟩

def last : Manner := ⟨false, true⟩

end Manner

abbrev Evaluator := Manner → Command → Action Unit

namespace Action

def failAt {α : Type} (fault : SyntaxFault) : Action α := do
  modify fun s => { s with line := fault.line }
  fail fault.text

section

variable (evaluate : Evaluator)

/-- Carries out the lines of a text, and gives the status of the last command among them: zero if
there is none. -/
def runLines (m : Manner) : Nat → Nat → Reader → Action Nat
  | 0, status, _ => return status
  | fuel + 1, status, reader => do
    let s ← get
    match nextLine? { reader with aliases := s.aliases, documents := s.documents } with
    | .error fault reader =>
      modify fun s => { s with documents := reader.documents }
      failAt fault
    | .ok none _ => return status
    | .ok (some c) reader =>
      modify fun s => { s with documents := reader.documents }
      let isLast :=
        match reader.held with
        | some .endOfFile => m.isLast
        | _ => false
      evaluate { m with isLast } c
      match c with
      | .nothing => runLines m fuel status reader
      | _ => runLines m fuel (← get).status reader

def runText (m : Manner) (text : String) : Action Nat :=
  runLines evaluate m maxReading 0 (Reader.ofText text [] #[])

def runFile (text : String) : Action Nat := do
  match ← attempt (runText evaluate .usual text) with
  | .ok status => return status
  | .error (.back _) => return (← get).status
  | .error j => throw j

def collectSignals : Action Unit := do
  let more ← ask .signals
  if !more.isEmpty then
    modify fun s => { s with signals := s.signals ++ more.filter (!s.signals.contains ·) }

def runTraps : Nat → Action Unit
  | 0 => pure ()
  | fuel + 1 => do
    let s ← get
    match s.signals.min? with
    | none => pure ()
    | some number =>
      set { s with signals := s.signals.filter (· ≠ number) }
      match s.traps.lookup number with
      | none => runTraps fuel
      | some text =>
        let status := s.savedStatus.getD s.status
        modify fun t => { t with savedStatus := some status }
        let r ← attempt (runText evaluate .usual text)
        match r with
        | .error .exit => throw .exit
        | .error .error => throw .error
        | .error .done => throw .done
        | _ => modify fun t => { t with savedStatus := s.savedStatus }
        match r with
        | .error (.back true) => throw (.back true)
        | .error j =>
          setStatus status
          throw j
        | .ok _ =>
          setStatus status
          runTraps fuel

def heedSignals : Action Unit := do
  collectSignals
  if !(← get).signals.isEmpty then runTraps evaluate maxRounds

def farewell : Action Nat := do
  let s ← get
  match s.traps.lookup 0 with
  | none => return s.status
  | some text =>
    set { s with traps := s.traps.drop 0, savedStatus := some s.status, builtin := none }
    match ← attempt (runText evaluate .usual text) with
    | .error .error | .error .done => return (← get).status
    | _ => return (← get).savedStatus.getD s.status

def conclude (a : Action Unit) : Action Nat := do
  let r ← attempt (do
    a
    heedSignals evaluate)
  modify fun s =>
    match r with
    | .error .exit => { s with status := s.savedStatus.getD s.status, savedStatus := none }
    | _ => { s with savedStatus := none }
  farewell evaluate

end

end Action

end ServerKeeper.Shell
