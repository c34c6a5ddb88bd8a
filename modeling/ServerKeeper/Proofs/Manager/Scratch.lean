import ServerKeeper.Proofs.Manager.Footprint

namespace ServerKeeper

open Toolchain (Call Command Machine ScratchSource Use Verb)
open Toolchain.Action (outcome_bind)

def Toolchain.Call.ran? : Call → Option (Command × FileTree)
  | .find _ => none
  | .run command files => some (command, files)

def Manager.uses (m : Manager) (s : Machine) : List Use :=
  match m.findToolchain.outcome s with
  | (.error _, _) => []
  | (.ok program, s) =>
    match m.makeBaseDir.outcome s with
    | (.error _, _) => []
    | (.ok (), s) =>
      (m.toolchain program).uses ["version"] s ++
        match (m.toolchain program).version.outcome s with
        | (.error _, _) => []
        | (.ok version, s) =>
          (m.toolchain program).uses [(Verb.ofVersion version).name, m.config.modulePath] s

/-- What can be asked for, each time of a toolchain or a manager of its own. -/
inductive Operation
  | version (t : Toolchain)
  | install (t : Toolchain) (verb : Verb) (module : String)
  | manage (m : Manager)

namespace Operation

def perform : Operation → Machine → Machine
  | version t, s => (t.version.outcome s).2
  | install t verb module, s => (t.install verb module |>.outcome s).2
  | manage m, s => (m.install.outcome s).2

def uses : Operation → Machine → List Use
  | version t, s => t.uses ["version"] s
  | install t verb module, s => t.uses [verb.name, module] s
  | manage m, s => m.uses s

def scratch : Operation → Toolchain.ScratchSource
  | version t => t.scratch
  | install t .. => t.scratch
  | manage m => m.scratch

def visits : List Operation → Machine → List (Operation × Machine)
  | [], _ => []
  | o :: os, s => (o, s) :: visits os (o.perform s)

end Operation

def Toolchain.Use.Avoids (u earlier : Use) : Prop :=
  u.found.find? earlier.scratch.location = none → u.left.find? earlier.scratch.location = none

instance (u earlier : Use) : Decidable (u.Avoids earlier) := by
  unfold Toolchain.Use.Avoids
  infer_instance

/-- What is expected of the commands of an operation: they leave trees of files, and they put
nothing else in the place of a scratch directory. -/
structure Orderly (us : List Use) : Prop where
  wellFormed : ∀ u ∈ us, u.left.WellFormed
  spares : ∀ u ∈ us, u.Spares
  avoids : us.Pairwise fun earlier u => u.Avoids earlier

/-- Commands that are run one after another in scratch directories, and a file written at last. -/
inductive RunsInTurn (source : ScratchSource) : Machine → List Use → Machine → Prop
  | done {s} : RunsInTurn source s [] s
  | marked {s path text files} : s.files.writeText path text = .ok files →
      RunsInTurn source s [] { s with files }
  | use {s u us s'} : u.Made source → u.before = s.files →
      RunsInTurn source ⟨u.after, s.calls ++ [.run u.command u.found]⟩ us s' →
      RunsInTurn source s (u :: us) s'

namespace RunsInTurn

variable {source : ScratchSource} {s s' : Machine} {us : List Use}

theorem ran (runs : RunsInTurn source s us s') :
    s'.calls.filterMap Call.ran? =
      s.calls.filterMap Call.ran? ++ us.map fun u => (u.command, u.found) := by
  induction runs with
  | done => simp
  | marked => simp
  | use _ _ _ ih => simp [ih, Call.ran?]

theorem no_directory (runs : RunsInTurn source s us s') (each : ∀ u ∈ us, u.Scoped source.root)
    {l : Location} (avoided : ∀ u ∈ us, u.found.find? l = none → u.left.find? l = none)
    (vacant : s.files.find? l = none) (mode : Nat) :
    s'.files.find? l ≠ some (.directory mode) := by
  induction runs with
  | done => simp [vacant]
  | @marked s path text files written =>
    obtain ⟨at_, mode', -, writable, rfl⟩ := FileTree.writeBytes_eq_ok_iff.mp written
    change FileTree.find? (s.files.put ..) l ≠ _
    rw [FileTree.find?_written writable]
    split
    · simp
    · simp [vacant]
  | @use s u us s' _ before _ ih =>
    rw [List.forall_mem_cons] at each avoided
    obtain ⟨first, others⟩ := each
    apply ih others avoided.2
    -- what is inside of this command's own scratch directory goes away with it
    by_cases below : u.scratch.location <+: l
    · obtain ⟨more, rfl⟩ := below
      exact first.gone more
    · have apart : l ≠ u.scratch.location := by
        rintro rfl
        exact below (List.prefix_refl _)
      rw [first.kept l below]
      apply avoided.1
      rw [first.made l apart, before]
      exact vacant

section Lawful

variable (runs : RunsInTurn source s us s') (lawful : source.Lawful) (wf : s.files.WellFormed)
  (orderly : Orderly us)

include runs lawful wf orderly

theorem scoped_of_orderly :
    ∀ u ∈ us, u.Scoped source.root ∧
      ∀ mode, s'.files.find? u.scratch.location ≠ some (.directory mode) := by
  induction runs with
  | done => simp
  | marked => simp
  | @use s u us s' made before runs ih =>
    obtain ⟨wellFormed, spares, avoids⟩ := orderly
    rw [List.forall_mem_cons] at wellFormed spares
    rw [List.pairwise_cons] at avoids
    obtain ⟨after, first⟩ := made.scoped_of_spares lawful (before ▸ wf) wellFormed.1 spares.1
    have others := ih after ⟨wellFormed.2, spares.2, avoids.2⟩
    refine List.forall_mem_cons.mpr ⟨⟨first, ?_⟩, others⟩
    -- gone at the end of its own call, and kept from coming back by the commands after it
    refine runs.no_directory (fun u member => (others u member).1) avoids.1 ?_
    simpa using first.gone []

theorem wellFormed : s'.files.WellFormed := by
  induction runs with
  | done => exact wf
  | marked written => exact wf.writeBytes written
  | use made before _ ih =>
    obtain ⟨wellFormed, spares, avoids⟩ := orderly
    rw [List.forall_mem_cons] at wellFormed spares
    have after := (made.scoped_of_spares lawful (before ▸ wf) wellFormed.1 spares.1).1
    exact ih after ⟨wellFormed.2, spares.2, (List.pairwise_cons.mp avoids).2⟩

end Lawful

end RunsInTurn

theorem runsInTurn_uses {t : Toolchain} {arguments : List String} {s s' : Machine} {us : List Use}
    (others : RunsInTurn t.scratch ((t.runSubcommand arguments).outcome s).2 us s') :
    RunsInTurn t.scratch s (t.uses arguments s ++ us) s' := by
  rcases t.uses_cases arguments s with ⟨none, same⟩ | ⟨u, one, made, before, left⟩
  · rw [none, List.nil_append]
    rwa [same] at others
  · rw [one]
    rw [left] at others
    exact .use made before others

theorem machine_of_version (t : Toolchain) (s : Machine) :
    (t.version.outcome s).2 = ((t.runSubcommand ["version"]).outcome s).2 := by
  rw [Manager.version_outcome]
  rcases (t.runSubcommand ["version"]).outcome s with ⟨_ | _, left⟩ <;> rfl

theorem machine_of_install (t : Toolchain) (verb : Verb) (module : String) (s : Machine) :
    (t.install verb module |>.outcome s).2 = ((t.runSubcommand [verb.name, module]).outcome s).2 := by
  rw [Manager.build_outcome]
  rcases (t.runSubcommand [verb.name, module]).outcome s with ⟨_ | _, left⟩ <;> rfl

theorem runsInTurn_manage (m : Manager) (s : Machine) :
    RunsInTurn m.scratch ⟨m.prepared s, s.calls ++ [.find m.config.toolchain]⟩ (m.uses s)
      (m.install.outcome s).2 := by
  change RunsInTurn _ _ _ ((m.remaining .begun).outcome s).2
  rw [Manager.remaining_begun, outcome_bind, Manager.uses, Manager.prepared,
    Manager.findToolchain_outcome]
  cases m.runner.find s.calls s.files m.config.toolchain with
  | none => exact .done
  | some program =>
    simp only [Option.elim, Manager.remaining_found, outcome_bind, Manager.makeBaseDir_outcome]
    rcases s.files.makeDirectories m.config.baseDir with ⟨fault | _, files⟩
    · exact .done
    · simp only [Except.mapError, Manager.remaining_prepared, outcome_bind]
      apply runsInTurn_uses (t := m.toolchain program)
      rw [← machine_of_version]
      rcases (m.toolchain program).version.outcome ⟨files, _⟩ with ⟨e | version, between⟩
      · exact .done
      · simp only [Manager.remaining_probed, outcome_bind]
        rw [← List.append_nil ((m.toolchain program).uses _ _)]
        apply runsInTurn_uses (t := m.toolchain program)
        rw [← machine_of_install]
        rcases ((m.toolchain program).install _ _).outcome between with ⟨e | _, built⟩
        · exact .done
        · change RunsInTurn _ built [] (m.writeMarker.outcome built).2
          rw [Manager.writeMarker_outcome]
          cases written : built.files.writeText m.config.markerPath m.config.desiredVersion with
          | error => exact .done
          | ok => exact .marked written

namespace Operation

theorem runsInTurn_perform (o : Operation) (s : Machine) :
    ∃ begun : Machine, begun.calls.filterMap Call.ran? = s.calls.filterMap Call.ran? ∧
      (s.files.WellFormed → begun.files.WellFormed) ∧
        RunsInTurn o.scratch begun (o.uses s) (o.perform s) := by
  cases o with
  | version t =>
    refine ⟨s, rfl, id, ?_⟩
    rw [uses, perform, machine_of_version, ← List.append_nil (t.uses _ _)]
    exact runsInTurn_uses .done
  | install t verb module =>
    refine ⟨s, rfl, id, ?_⟩
    rw [uses, perform, machine_of_install, ← List.append_nil (t.uses _ _)]
    exact runsInTurn_uses .done
  | manage m =>
    exact ⟨_, by simp [Call.ran?], fun wf => (Manager.gains_prepared wf).wellFormed, runsInTurn_manage m s⟩

/-- An operation that keeps its scratch directories to itself: what was run are the commands that it
uses them for, each finds its own one, and when the operation returns none of them is there. -/
structure Scoped (o : Operation) (s : Machine) : Prop where
  ran : (o.perform s).calls.filterMap Call.ran? =
    s.calls.filterMap Call.ran? ++ (o.uses s).map fun u => (u.command, u.found)
  uses : ∀ u ∈ o.uses s, u.Scoped o.scratch.root ∧
    ∀ mode, (o.perform s).files.find? u.scratch.location ≠ some (.directory mode)

theorem scoped_perform {o : Operation} {s : Machine} (lawful : o.scratch.Lawful)
    (wf : s.files.WellFormed) (orderly : Orderly (o.uses s)) :
    o.Scoped s ∧ (o.perform s).files.WellFormed := by
  obtain ⟨begun, calls, placed, runs⟩ := runsInTurn_perform o s
  have started := placed wf
  exact ⟨⟨by rw [runs.ran, calls], runs.scoped_of_orderly lawful started orderly⟩,
    runs.wellFormed lawful started orderly⟩

/-- A toolchain that writes into its scratch directory, then takes it away and fails, and at last is
killed with the scratch root gone. -/
def untidy : Toolchain.Rehearsal where
  found := some "/usr/local/go/bin/go"
  responses :=
    [⟨[.file "/tmp/.tmp1n0/trace" "probe".toUTF8 0o600, .file "log" .empty 0o644], none,
      ⟨"go version go1.21.4 linux/amd64\n", "", some 0⟩⟩,
     ⟨[.remove "/tmp/.tmp2n0"], none, ⟨"", "no space left", some 1⟩⟩,
     ⟨[.remove "/tmp"], some "killed", ⟨"", "", none⟩⟩]

/-- An install, and then a toolchain that is asked for its version and to install a module. -/
def untidyOperations : List Operation :=
  let t : Toolchain := ⟨untidy.runner, "go", "store", .under "/tmp"⟩
  [.manage ⟨.ofRoot "store", untidy.runner, .under "/tmp"⟩, .version t, .install t .get "gopls"]

/-- A source under a root that is named by the one byte `0xff`, which no Unicode text is. -/
def nameless : ScratchSource where
  root := "/\x00ÿ"
  make := fun _ files =>
    if files.hasDirectory ["\x00ÿ"] ∧ files.find? ["\x00ÿ", ".tmp"] = none then
      .ok ⟨"/\x00ÿ/.tmp", ["\x00ÿ", ".tmp"], 0o700⟩
    else .error FileFault.notFound.message
  drop := fun scratch files =>
    if Toolchain.directoryAt? (files.clear scratch.location) scratch.path = some scratch.location then
      files.prune scratch.location
    else files

theorem nameless_lawful : nameless.Lawful := by
  have plain : Path.IsPlain ".tmp" := by decide
  have path (files : FileTree) : Path.join (Toolchain.absoluteRoot files "/\x00ÿ") ".tmp" =
      "/\x00ÿ/.tmp" := by
    rw [Toolchain.absoluteRoot_of_isAbsolute (by decide)]
    decide
  have rooted : Toolchain.Rooted "/\x00ÿ/.tmp" ["\x00ÿ"] ".tmp" := ⟨by decide, by decide, plain, by decide⟩
  have made {calls files scratch} (ok : nameless.make calls files = .ok scratch) :
      files.hasDirectory ["\x00ÿ"] = true ∧ files.find? ["\x00ÿ", ".tmp"] = none ∧
        scratch = ⟨"/\x00ÿ/.tmp", ["\x00ÿ", ".tmp"], 0o700⟩ := by
    unfold nameless at ok
    dsimp only at ok
    split at ok
    · rename_i free
      cases ok
      exact ⟨free.1, free.2, rfl⟩
    · cases ok
  refine ⟨fun {calls files scratch} _ ok => ?_, fun {calls files scratch} _ left outside => if_pos outside,
    fun {calls files scratch} ok left missing => if_neg fun outside => ?_⟩
  · obtain ⟨directory, vacant, rfl⟩ := made ok
    refine ⟨⟨".tmp", plain, (path files).symm⟩, vacant, ?_, fun free => absurd (by decide) free⟩
    obtain ⟨mode, found⟩ := FileTree.hasDirectory_iff.mp directory
    have grown := FileTree.extends_put (by simp) vacant (e := .directory 0o700)
    refine (Toolchain.standsAt?_eq_some_iff rooted).mpr ⟨by decide, FileTree.maxLinks, ["\x00ÿ"],
      ⟨[], rfl, .into ⟨by decide, by decide, by decide, by decide⟩ (grown.entry _ _ found) .here⟩, rfl, ?_⟩
    rw [Toolchain.Scratch.putInto, FileTree.find?_put (by simp), if_pos rfl]
  · obtain ⟨-, -, rfl⟩ := made ok
    obtain ⟨mode, stands⟩ := Toolchain.directoryAt?_eq_some_iff.mp outside
    have before := Toolchain.standsAt?_of_extends (FileTree.clear_extends _ _) rooted stands
    rw [missing] at before
    cases before

def answering (layout : List Placement) (source : ScratchSource) : Toolchain where
  runner := Toolchain.Rehearsal.runner ⟨none,
    [⟨layout, none, ⟨"go version go1.21.4 linux/amd64\n", "", some 0⟩⟩]⟩
  program := "go"
  baseDir := "store"
  scratch := source

end Operation

end ServerKeeper
