import ServerKeeper.Proofs.FileTree.Site
import ServerKeeper.Proofs.Lifecycle
import ServerKeeper.Proofs.Manager.Session

namespace ServerKeeper

open Toolchain (Action Call Command Machine Output Runner Scratch ScratchSource Verb)

def FileTree.SameBelow (base : Location) (t u : FileTree) : Prop :=
  ∀ more, u.find? (base ++ more) = t.find? (base ++ more)

/-- The same question to a runner, with files that are the same at a location and below it. -/
inductive Toolchain.Call.Alike (base : Location) : Call → Call → Prop
  | find {program} : Alike base (.find program) (.find program)
  | run {command files others} : files.SameBelow base others →
      Alike base (.run command files) (.run command others)

theorem Toolchain.Call.Alike.refl {base : Location} (call : Call) : call.Alike base call := by
  cases call with
  | find => exact .find
  | run => exact .run fun _ => rfl

/-- A runner that keeps to the directory that it is given: it writes nowhere else, its answers and
what it writes depend only on what is there and on the earlier calls, and it leaves a tree of files
without links. -/
structure Toolchain.Runner.Confined (r : Runner) (path : String) (base : Location) : Prop where
  find : ∀ {calls others files files'} (program : String),
    List.Forall₂ (Call.Alike base) calls others → files.SameBelow base files' →
      r.find others files' program = r.find calls files program
  run : ∀ {calls others files files'} (command : Command), ("GOPATH", path) ∈ command.bindings →
    List.Forall₂ (Call.Alike base) calls others → files.SameBelow base files' →
      (r.run others files' command).1 = (r.run calls files command).1 ∧
        (r.run calls files command).2.SameBelow base (r.run others files' command).2
  outside : ∀ calls (files : FileTree) (command : Command), ("GOPATH", path) ∈ command.bindings →
    files.Matches (¬base <+: ·) (r.run calls files command).2
  wellFormed : ∀ calls {files : FileTree} (command : Command), ("GOPATH", path) ∈ command.bindings →
    files.WellFormed → (r.run calls files command).2.WellFormed
  linkFree : ∀ calls {files : FileTree} (command : Command), ("GOPATH", path) ∈ command.bindings →
    files.LinkFree → (r.run calls files command).2.LinkFree

def Toolchain.ScratchSource.DrawsFrom (source : ScratchSource) (base : Location) (ways : FileTree)
    (dir : Location) : Prop :=
  ∀ {calls others files files'}, List.Forall₂ (Call.Alike base) calls others → ways.Solid files →
    ways.Solid files' → (∀ name, files'.find? (dir ++ [name]) = files.find? (dir ++ [name])) →
      source.make others files' = source.make calls files

namespace Toolchain.Action

variable {α β : Type} {a : Action α} {f : α → Action β}

def Keeps (a : Action α) (P : Machine → Prop) : Prop :=
  ∀ s, P s → P (a.outcome s).2

theorem Keeps.bind {P : Machine → Prop} (first : a.Keeps P) (next : ∀ x, (f x).Keeps P) :
    (a >>= f).Keeps P := by
  intro s holds
  have after := first s holds
  rw [outcome_bind]
  rcases outcome : a.outcome s with ⟨e | x, left⟩ <;> rw [outcome] at after
  · exact after
  · exact next x left after

/-- An action has one result on two machines in a relation, and leaves them in another one where it
succeeds, and in a third one where it fails. -/
def Agrees (a : Action α) (P Q R : Machine → Machine → Prop) : Prop :=
  ∀ s s', P s s' → (a.outcome s').1 = (a.outcome s).1 ∧
    match (a.outcome s).1 with
    | .ok _ => Q (a.outcome s).2 (a.outcome s').2
    | .error _ => R (a.outcome s).2 (a.outcome s').2

theorem Agrees.bind {P Q Q' R : Machine → Machine → Prop} (first : a.Agrees P Q R)
    (next : ∀ x, (f x).Agrees Q Q' R) : (a >>= f).Agrees P Q' R := by
  intro s s' related
  obtain ⟨same, after⟩ := first s s' related
  rw [outcome_bind, outcome_bind]
  rcases one : a.outcome s with ⟨e | x, left⟩ <;> rcases two : a.outcome s' with ⟨e' | x', left'⟩ <;>
    rw [one, two] at same after <;> cases same
  · exact ⟨rfl, after⟩
  · exact next x left left' after

theorem Agrees.related {P Q : Machine → Machine → Prop} (agrees : a.Agrees P Q Q) {s s' : Machine}
    (related : P s s') :
    (a.outcome s').1 = (a.outcome s).1 ∧ Q (a.outcome s).2 (a.outcome s').2 := by
  obtain ⟨same, after⟩ := agrees s s' related
  refine ⟨same, ?_⟩
  split at after <;> exact after

theorem agrees_pure {P R : Machine → Machine → Prop} (x : α) : (pure x : Action α).Agrees P P R :=
  fun _ _ related => ⟨rfl, related⟩

theorem agrees_throw {P Q R : Machine → Machine → Prop} (among : ∀ {s s'}, P s s' → R s s')
    (e : InstallError) : (throw e : Action α).Agrees P Q R :=
  fun _ _ related => ⟨rfl, among related⟩

end Toolchain.Action

/-- Two machines that are the same for the keeper of a site, with trees that are in some relation. -/
structure Toolchain.Machine.Near (p : Site) (ways : FileTree) (R : FileTree → FileTree → Prop)
    (s s' : Machine) : Prop where
  calls : List.Forall₂ (Call.Alike p.base) s.calls s'.calls
  solid : ways.Solid s.files
  solid' : ways.Solid s'.files
  files : R s.files s'.files

theorem FileTree.Resembles.sameBelow {p : Site} {t u : FileTree} (resembles : t.Resembles p p.Sees u) :
    t.SameBelow p.base u :=
  fun more => resembles.find?_eq (List.prefix_append p.base more)

namespace Manager

def site (m : Manager) (t : FileTree) : Site where
  start := t.origin m.config.storageRoot
  way := Path.named (Path.segments m.config.storageRoot)
  name := m.config.packageName

def Same (m : Manager) (ways : FileTree) : Machine → Machine → Prop :=
  Machine.Near (m.site ways) ways (FileTree.Matches (m.site ways).Sees)

/-- Two machines that are the same to a manager, but for directories on the way to the storage root,
which the second may have before the first. -/
def Alike (m : Manager) (ways : FileTree) : Machine → Machine → Prop :=
  Machine.Near (m.site ways) ways (FileTree.Resembles (m.site ways) (m.site ways).Sees)

theorem Same.alike {m : Manager} {ways : FileTree} {s s' : Machine} (same : m.Same ways s s') :
    m.Alike ways s s' :=
  ⟨same.calls, same.solid, same.solid', same.files.resembles⟩

/-- A manager that is at home in its base directory, in trees that have all of `ways`: nothing of
these is in the base directory, and over them the scratch root is reached, which is not at the storage
root or below it. -/
structure ConfinedToBase (m : Manager) (ways : FileTree) : Prop where
  plain : m.Plain
  server : Path.IsPlain m.config.serverName
  fits : ∀ name ∈ Path.named (Path.segments m.config.baseDir), name.utf8ByteSize ≤ FileTree.maxName
  spared : ∀ l, (m.site ways).base <+: l → ways.find? l = none
  lawful : m.scratch.Lawful
  scratch : ∃ left dir, ways.Reaches (Toolchain.absoluteRoot ways m.scratch.root)
      (Path.segments (Toolchain.absoluteRoot ways m.scratch.root)) left dir ∧
    ¬(m.site ways).root <+: dir ∧ m.scratch.DrawsFrom (m.site ways).base ways dir
  runner : m.runner.Confined m.config.baseDir (m.site ways).base

section Places

variable {m : Manager} {ways t : FileTree} (confined : m.ConfinedToBase ways)
  (current : t.current = ways.current)

theorem isPlain_version : Path.IsPlain "VERSION" := by decide

theorem isPlain_bin : Path.IsPlain "bin" := by decide

theorem segments_markerPath (m : Manager) :
    Path.segments m.config.markerPath = Path.segments m.config.baseDir ++ ["VERSION"] :=
  Path.segments_join isPlain_version.isSegment

theorem steps_markerPath (m : Manager) :
    FileTree.steps m.config.markerPath = Path.segments m.config.markerPath := by
  rw [m.segments_markerPath]
  exact FileTree.steps_join isPlain_version

include confined

theorem ConfinedToBase.upward : ".." ∉ Path.segments m.config.storageRoot :=
  fun member => confined.plain.root (Path.mem_components_of_mem_segments member)

theorem ConfinedToBase.straight_baseDir :
    FileTree.IsStraight m.config.baseDir (Path.segments m.config.storageRoot)
      m.config.packageName :=
  ⟨confined.plain.segments_baseDir, confined.plain.package, confined.upward, confined.fits⟩

theorem ConfinedToBase.upward_baseDir : ".." ∉ Path.segments m.config.baseDir := by
  rw [confined.plain.segments_baseDir]
  simp [confined.upward, Ne.symm confined.plain.package.2.2.2]

theorem ConfinedToBase.straight_markerPath :
    FileTree.IsStraight m.config.markerPath (Path.segments m.config.baseDir) "VERSION" := by
  refine ⟨m.segments_markerPath, isPlain_version, confined.upward_baseDir, fun name among => ?_⟩
  rw [m.segments_markerPath, Path.named_append, List.mem_append] at among
  rcases among with among | among
  · exact confined.fits name among
  · obtain rfl : name = "VERSION" := by simpa [Path.named] using among
    decide

include current

theorem ConfinedToBase.origin_baseDir : t.origin m.config.baseDir = (m.site ways).start := by
  rw [FileTree.origin, Config.baseDir, Path.isAbsolute_join confined.plain.package.isSegment, current]
  rfl

theorem ConfinedToBase.locate_baseDir : t.locate m.config.baseDir = (m.site ways).base := by
  rw [FileTree.locate, confined.origin_baseDir current, confined.straight_baseDir.named, Site.base,
    Site.root, List.append_assoc]
  rfl

theorem ConfinedToBase.origin_markerPath :
    t.origin m.config.markerPath ++ Path.named (Path.segments m.config.baseDir) =
      (m.site ways).base := by
  rw [← confined.locate_baseDir current, FileTree.locate, FileTree.origin, FileTree.origin,
    Config.markerPath, Path.isAbsolute_join isPlain_version.isSegment]

theorem ConfinedToBase.own_markerPath : (m.site ways).base <+: t.locate m.config.markerPath := by
  rw [confined.straight_markerPath.locate, confined.origin_markerPath current]
  exact List.prefix_append ..

theorem ConfinedToBase.own_managedBinaryPath :
    ".." ∉ Path.segments m.config.managedBinaryPath ∧
      (m.site ways).base <+: t.locate m.config.managedBinaryPath := by
  have names : Path.segments m.config.managedBinaryPath =
      Path.segments m.config.baseDir ++ ["bin", m.config.serverName] := by
    rw [Config.managedBinaryPath, Path.segments_join confined.server.isSegment,
      Path.segments_join isPlain_bin.isSegment]
    simp
  constructor
  · rw [names]
    simp [confined.upward_baseDir, Ne.symm confined.server.2.2.2]
  · have absolute : Path.isAbsolute m.config.managedBinaryPath = Path.isAbsolute m.config.baseDir := by
      rw [Config.managedBinaryPath, Path.isAbsolute_join confined.server.isSegment,
        Path.isAbsolute_join isPlain_bin.isSegment]
    rw [← confined.locate_baseDir current, FileTree.locate, FileTree.locate, FileTree.origin,
      FileTree.origin, absolute, names, Path.named_append, ← List.append_assoc]
    exact List.prefix_append ..

end Places

section Scratch

def ranIn (m : Manager) (program : String) (arguments : List String) (s : Machine)
    (scratch : Scratch) : Except InstallError Output × Machine :=
  let command := m.command program arguments scratch.text
  let found := scratch.putInto s.files
  let ran := m.runner.run s.calls found command
  (ran.1, ⟨ran.2.prune scratch.location, s.calls ++ [.run command found]⟩)

theorem gopath_mem (m : Manager) (program : String) (arguments : List String) (text : String) :
    ("GOPATH", m.config.baseDir) ∈ (m.command program arguments text).bindings := by
  simp [command]

variable {m : Manager} {ways : FileTree} {s : Machine} {left : Nat} {dir : Location}
  {scratch : Scratch} (confined : m.ConfinedToBase ways) (solid : ways.Solid s.files)
  (reaches : ways.Reaches (Toolchain.absoluteRoot ways m.scratch.root)
    (Path.segments (Toolchain.absoluteRoot ways m.scratch.root)) left dir)
  (outside : ¬(m.site ways).root <+: dir)

include outside in
theorem not_below_root (other name : String) : ¬(m.site ways).root ++ [other] <+: dir ++ [name] := by
  intro inside
  rcases List.prefix_concat_iff.mp inside with same | below
  · exact outside ((List.append_inj' same rfl).1 ▸ List.prefix_refl _)
  · exact outside ((List.prefix_append ..).trans below)

include solid reaches in
theorem scratch_place (fresh : scratch.Fresh m.scratch.root s.files) :
    ∃ name, scratch.location = dir ++ [name] ∧
      ∀ {t : FileTree} {mode : Nat}, ways.Extends t →
        t.find? scratch.location = some (.directory mode) →
          Toolchain.directoryAt? t scratch.path = some scratch.location := by
  obtain ⟨name, plain, named⟩ := fresh.named
  have rooted := Toolchain.rooted_join s.files m.scratch.root plain
  rw [← named, Toolchain.absoluteRoot_congr solid.holds.current] at rooted
  have behind {t : FileTree} (holds : ways.Extends t) :
      t.Reaches scratch.path (Path.segments (Toolchain.absoluteRoot ways m.scratch.root)) left dir :=
    (holds.reaches reaches).congr
      (rooted.absolute.trans (Toolchain.isAbsolute_absoluteRoot ways m.scratch.root).symm) rfl
  obtain ⟨fits, fewer, other, before, location, -⟩ :=
    (Toolchain.standsAt?_eq_some_iff rooted).mp fresh.leads
  have grown := solid.holds.trans
    (FileTree.extends_put fresh.proper fresh.vacant (e := .directory scratch.mode))
  obtain ⟨-, rfl⟩ := (behind grown).unique before
  refine ⟨name, location, fun holds found => ?_⟩
  exact Toolchain.directoryAt?_eq_some_iff.mpr
    ⟨_, (Toolchain.standsAt?_eq_some_iff rooted).mpr
      ⟨fits, left, dir, behind holds, location, found⟩⟩

include outside in
theorem matches_scratch {found : FileTree} {name : String} (wf : s.files.WellFormed)
    (vacant : s.files.find? scratch.location = none) (location : scratch.location = dir ++ [name])
    (ran : (scratch.putInto s.files).Matches (¬(m.site ways).base <+: ·) found) :
    found.find? scratch.location = some (.directory scratch.mode) ∧
      s.files.Matches (¬(m.site ways).base <+: ·) (found.prune scratch.location) := by
  have proper : scratch.location ≠ [] := by simp [location]
  constructor
  · rw [ran.entry _ (location ▸ not_below_root outside _ name), Scratch.putInto,
      FileTree.find?_put proper, if_pos rfl]
  · refine ⟨ran.current, fun l elsewhere => ?_⟩
    rw [FileTree.find?_prune proper]
    split
    · rename_i below
      obtain ⟨more, rfl⟩ := below
      exact (wf.vacant_below vacant more).symm
    · rename_i apart
      rw [ran.entry l elsewhere, Scratch.putInto, FileTree.find?_put proper, if_neg]
      rintro rfl
      exact apart (List.prefix_refl _)

include confined solid reaches outside in
theorem runSubcommand_eq (program : String) (arguments : List String) :
    ((m.toolchain program).runSubcommand arguments).outcome s =
      match m.scratch.make s.calls s.files with
      | .error reason => (.error (.io ("Failed to create toolchain scratch directory: " ++ reason)), s)
      | .ok scratch => m.ranIn program arguments s scratch := by
  cases made : m.scratch.make s.calls s.files with
  | error reason =>
    exact Toolchain.runSubcommand_of_noScratch (t := m.toolchain program) arguments made
  | ok scratch =>
    have fresh := confined.lawful.fresh solid.wellFormed made
    obtain ⟨name, location, leads⟩ := scratch_place solid reaches fresh
    have kept := confined.runner.outside s.calls (scratch.putInto s.files) _
      (m.gopath_mem program arguments scratch.text)
    obtain ⟨stands, elsewhere⟩ := matches_scratch outside solid.wellFormed fresh.vacant location kept
    -- what the command did in its base directory is not on the way to the scratch directory
    have holds := (elsewhere.resembles.holds confined.spared solid.holds)
    rw [← FileTree.prune_clear] at holds
    have there := leads (holds.trans (FileTree.prune_extends fresh.proper _))
      ((FileTree.find?_clear ..).trans ((if_neg (by simp)).trans stands))
    rw [Toolchain.runSubcommand_of_scratch (t := m.toolchain program) arguments made rfl]
    exact congrArg (fun files => (_, Machine.mk files _)) (confined.lawful.dropped made _ there)

include confined solid reaches outside in
theorem doneAt_ranIn (fresh : scratch.Fresh m.scratch.root s.files) (program : String)
    (arguments : List String) :
    s.files.DoneAt (m.site ways) (m.ranIn program arguments s scratch).2.files ways := by
  obtain ⟨name, location, -⟩ := scratch_place solid reaches fresh
  have given := m.gopath_mem program arguments scratch.text
  have leaf : ∀ mode, s.files.find? scratch.location ≠ some (.directory mode) := by
    simp [fresh.vacant]
  obtain ⟨outer, above⟩ := (solid.holds.reaches reaches).directory solid.wellFormed
  have placed : (scratch.putInto s.files).WellFormed := by
    rw [Scratch.putInto, location]
    exact solid.wellFormed.put above (location ▸ leaf)
  have wf := confined.runner.wellFormed s.calls _ given placed
  have linkFree : (scratch.putInto s.files).LinkFree := solid.linkFree.put fresh.proper (by simp)
  have free := confined.runner.linkFree s.calls _ given linkFree
  obtain ⟨-, elsewhere⟩ := matches_scratch outside solid.wellFormed fresh.vacant location
    (confined.runner.outside s.calls _ _ given)
  exact FileTree.doneAt_of_matches solid confined.spared elsewhere (wf.prune fresh.proper)
    (free.of_extends (FileTree.prune_extends fresh.proper _))

include confined solid in
theorem doneAt_runSubcommand (program : String) (arguments : List String) :
    s.files.DoneAt (m.site ways) (((m.toolchain program).runSubcommand arguments).outcome s).2.files
      ways := by
  obtain ⟨left, dir, reaches, outside, -⟩ := confined.scratch
  rw [runSubcommand_eq confined solid reaches outside program arguments]
  cases made : m.scratch.make s.calls s.files with
  | error => exact FileTree.doneAt_refl solid
  | ok scratch =>
    exact doneAt_ranIn confined solid reaches outside (confined.lawful.fresh solid.wellFormed made) ..

variable {s' : Machine} (near : m.Same ways s s')

include confined reaches outside near in
theorem near_ranIn (fresh : scratch.Fresh m.scratch.root s.files)
    (fresh' : scratch.Fresh m.scratch.root s'.files) (program : String) (arguments : List String) :
    (m.ranIn program arguments s' scratch).1 = (m.ranIn program arguments s scratch).1 ∧
      m.Same ways (m.ranIn program arguments s scratch).2 (m.ranIn program arguments s' scratch).2 := by
  obtain ⟨name, location, -⟩ := scratch_place near.solid reaches fresh
  have given := m.gopath_mem program arguments scratch.text
  have proper := fresh.proper
  have found : (scratch.putInto s.files).SameBelow (m.site ways).base (scratch.putInto s'.files) :=
    (near.files.resembles.put proper _).sameBelow
  obtain ⟨result, below⟩ := confined.runner.run _ given near.calls found
  have done := doneAt_ranIn confined near.solid reaches outside fresh program arguments
  have done' := doneAt_ranIn confined near.solid' reaches outside fresh' program arguments
  refine ⟨result, ⟨List.rel_append near.calls (.cons (.run found) .nil), done.solid, done'.solid, ?_⟩⟩
  have elsewhere := (matches_scratch outside near.solid.wellFormed fresh.vacant location
    (confined.runner.outside s.calls _ _ given)).2
  have elsewhere' := (matches_scratch outside near.solid'.wellFormed fresh'.vacant location
    (confined.runner.outside s'.calls _ _ given)).2
  refine ⟨done'.solid.holds.current.trans done.solid.holds.current.symm, fun l sees => ?_⟩
  by_cases own : (m.site ways).base <+: l
  · obtain ⟨more, rfl⟩ := own
    simp only [ranIn, FileTree.find?_prune proper]
    split
    · rfl
    · exact below more
  · exact (elsewhere'.entry l own).trans ((near.files.entry l sees).trans (elsewhere.entry l own).symm)

include confined near in
theorem near_runSubcommand (program : String) (arguments : List String) :
    (((m.toolchain program).runSubcommand arguments).outcome s').1 =
        (((m.toolchain program).runSubcommand arguments).outcome s).1 ∧
      m.Same ways (((m.toolchain program).runSubcommand arguments).outcome s).2
        (((m.toolchain program).runSubcommand arguments).outcome s').2 := by
  obtain ⟨left, dir, reaches, outside, draws⟩ := confined.scratch
  have entry (name : String) : s'.files.find? (dir ++ [name]) = s.files.find? (dir ++ [name]) :=
    near.files.entry _ (.inr fun other => not_below_root outside other _)
  have again := draws near.calls near.solid near.solid' entry
  rw [runSubcommand_eq confined near.solid reaches outside program arguments,
    runSubcommand_eq confined near.solid' reaches outside program arguments, again]
  cases made : m.scratch.make s.calls s.files with
  | error => exact ⟨rfl, near⟩
  | ok scratch =>
    have fresh := confined.lawful.fresh near.solid.wellFormed made
    have fresh' := confined.lawful.fresh near.solid'.wellFormed (again.trans made)
    exact near_ranIn confined reaches outside near fresh fresh' ..

end Scratch

section Install

variable {m : Manager} {ways : FileTree} (confined : m.ConfinedToBase ways)

include confined

theorem ConfinedToBase.doneAt_makeBaseDir {t : FileTree} (solid : ways.Solid t) :
    t.DoneAt (m.site ways) (t.makeDirectories m.config.baseDir).2 ways :=
  FileTree.doneAt_makeDirectories confined.straight_baseDir confined.plain.steps_baseDir
    (confined.origin_baseDir solid.holds.current) (confined.locate_baseDir solid.holds.current) solid
    confined.spared

theorem ConfinedToBase.doneAt_writeMarker {t written : FileTree} (solid : ways.Solid t)
    (ok : t.writeText m.config.markerPath m.config.desiredVersion = .ok written) :
    t.DoneAt (m.site ways) written ways :=
  FileTree.doneAt_writeBytes confined.straight_markerPath m.steps_markerPath
    (confined.origin_markerPath solid.holds.current) solid confined.spared ok

theorem ConfinedToBase.doneAt_removeBaseDir {t : FileTree} (solid : ways.Solid t) :
    t.DoneAt (m.site ways) (t.removeTree m.config.baseDir).2 ways :=
  FileTree.doneAt_removeTree confined.straight_baseDir confined.plain.steps_baseDir
    (confined.locate_baseDir solid.holds.current) solid confined.spared

theorem ConfinedToBase.agrees_runSubcommand (program : String) (arguments : List String) :
    ((m.toolchain program).runSubcommand arguments).Agrees (m.Same ways) (m.Same ways)
      (m.Alike ways) := by
  intro s s' same
  obtain ⟨result, after⟩ := near_runSubcommand confined same program arguments
  refine ⟨result, ?_⟩
  split
  · exact after
  · exact after.alike

theorem ConfinedToBase.agrees_version (program : String) :
    (m.toolchain program).version.Agrees (m.Same ways) (m.Same ways) (m.Alike ways) := by
  refine (confined.agrees_runSubcommand program ["version"]).bind fun output => ?_
  split
  · exact Action.agrees_pure _
  · exact Action.agrees_throw Same.alike _

theorem ConfinedToBase.agrees_build (program : String) (verb : Verb) (module : String) :
    ((m.toolchain program).install verb module).Agrees (m.Same ways) (m.Same ways)
      (m.Alike ways) := by
  refine (confined.agrees_runSubcommand program [verb.name, module]).bind fun output => ?_
  split
  · exact Action.agrees_pure _
  · exact Action.agrees_throw Same.alike _

theorem ConfinedToBase.agrees_findToolchain :
    m.findToolchain.Agrees (m.Alike ways) (m.Alike ways) (m.Alike ways) := by
  intro s s' alike
  have found := confined.runner.find m.config.toolchain alike.calls alike.files.sameBelow
  have after : m.Alike ways { s with calls := s.calls ++ [.find m.config.toolchain] }
      { s' with calls := s'.calls ++ [.find m.config.toolchain] } :=
    ⟨List.rel_append alike.calls (.cons .find .nil), alike.solid, alike.solid', alike.files⟩
  rw [findToolchain_outcome, findToolchain_outcome, found]
  refine ⟨rfl, ?_⟩
  split <;> exact after

theorem ConfinedToBase.agrees_makeBaseDir :
    m.makeBaseDir.Agrees (m.Alike ways) (m.Same ways) (m.Alike ways) := by
  intro s s' alike
  have current := alike.solid.holds.current
  obtain ⟨result, resembles, matched⟩ := alike.files.makeDirectories confined.straight_baseDir
    confined.plain.steps_baseDir (confined.origin_baseDir current) (confined.locate_baseDir current)
    alike.solid alike.solid'
  have done := confined.doneAt_makeBaseDir alike.solid
  have done' := confined.doneAt_makeBaseDir alike.solid'
  rw [makeBaseDir_outcome, makeBaseDir_outcome, result]
  refine ⟨rfl, ?_⟩
  cases made : (s.files.makeDirectories m.config.baseDir).1 with
  | error => exact ⟨alike.calls, done.solid, done'.solid, resembles⟩
  | ok => exact ⟨alike.calls, done.solid, done'.solid, matched made⟩

theorem ConfinedToBase.agrees_writeMarker :
    m.writeMarker.Agrees (m.Same ways) (m.Alike ways) (m.Alike ways) := by
  intro s s' same
  have place := confined.origin_markerPath same.solid.holds.current
  rw [writeMarker_outcome, writeMarker_outcome]
  rcases same.files.resembles.writeBytes confined.straight_markerPath m.steps_markerPath place same.solid
      same.solid' m.config.desiredVersion.toUTF8 with
    ⟨fault, failed, failed'⟩ | ⟨written, written', ok, ok', after⟩
  · simp only [FileTree.writeText, failed, failed']
    exact ⟨trivial, same.alike⟩
  · have done := confined.doneAt_writeMarker same.solid ok
    have done' := confined.doneAt_writeMarker same.solid' ok'
    simp only [FileTree.writeText, ok, ok']
    exact ⟨trivial, same.calls, done.solid, done'.solid, after⟩

theorem ConfinedToBase.agrees_install :
    m.install.Agrees (m.Alike ways) (m.Alike ways) (m.Alike ways) := by
  change (m.remaining .begun).Agrees _ _ _
  refine confined.agrees_findToolchain.bind fun program => ?_
  refine confined.agrees_makeBaseDir.bind fun _ => ?_
  refine (confined.agrees_version program).bind fun version => ?_
  exact (confined.agrees_build program _ _).bind fun _ => confined.agrees_writeMarker

theorem ConfinedToBase.keeps_install (t : FileTree) :
    m.install.Keeps fun s => t.DoneAt (m.site ways) s.files ways := by
  have called (program : String) (arguments : List String) :
      ((m.toolchain program).runSubcommand arguments).Keeps
        fun s => t.DoneAt (m.site ways) s.files ways :=
    fun s done => done.trans (doneAt_runSubcommand confined done.solid program arguments)
  change (m.remaining .begun).Keeps _
  refine Action.Keeps.bind (fun s done => ?_) fun program => ?_
  · rw [findToolchain_outcome]
    exact done
  refine Action.Keeps.bind (fun s done => ?_) fun _ => ?_
  · rw [makeBaseDir_outcome]
    exact done.trans (confined.doneAt_makeBaseDir done.solid)
  refine Action.Keeps.bind (Action.Keeps.bind (called program _) fun output => ?_) fun version => ?_
  · split <;> exact fun s done => done
  refine Action.Keeps.bind (Action.Keeps.bind (called program _) fun output => ?_) fun _ s done => ?_
  · split <;> exact fun s done => done
  rw [writeMarker_outcome]
  cases written : s.files.writeText m.config.markerPath m.config.desiredVersion with
  | error => exact done
  | ok => exact done.trans (confined.doneAt_writeMarker done.solid written)

theorem ConfinedToBase.keeps_uninstall (t : FileTree) :
    m.uninstall.Keeps fun s => t.DoneAt (m.site ways) s.files ways := by
  intro s done
  rw [uninstall_outcome]
  exact done.trans (confined.doneAt_removeBaseDir done.solid)

theorem ConfinedToBase.agrees_uninstall :
    m.uninstall.Agrees (m.Alike ways) (m.Alike ways) (m.Alike ways) := by
  intro s s' alike
  obtain ⟨result, resembles⟩ := alike.files.removeTree confined.straight_baseDir
    confined.plain.steps_baseDir (confined.locate_baseDir alike.solid.holds.current) alike.solid alike.solid'
  have done := confined.doneAt_removeBaseDir alike.solid
  have done' := confined.doneAt_removeBaseDir alike.solid'
  have after : m.Alike ways { s with files := (s.files.removeTree m.config.baseDir).2 }
      { s' with files := (s'.files.removeTree m.config.baseDir).2 } :=
    ⟨alike.calls, done.solid, done'.solid, resembles⟩
  rw [uninstall_outcome, uninstall_outcome, result]
  refine ⟨rfl, ?_⟩
  split <;> exact after

end Install

section Reading

variable {m : Manager} {ways : FileTree} {s s' : Machine} (confined : m.ConfinedToBase ways)
  (alike : m.Alike ways s s')

include confined alike

theorem ConfinedToBase.installedVersion?_eq :
    m.installedVersion? s'.files = m.installedVersion? s.files := by
  rw [installedVersion?, installedVersion?, alike.files.readText_eq alike.solid alike.solid'
    confined.straight_markerPath m.steps_markerPath (confined.own_markerPath alike.solid.holds.current)]

theorem ConfinedToBase.needsInstall_eq : m.needsInstall s'.files = m.needsInstall s.files := by
  obtain ⟨upward, own⟩ := confined.own_managedBinaryPath alike.solid.holds.current
  rw [needsInstall, needsInstall, confined.installedVersion?_eq alike,
    alike.files.isExecutable_eq alike.solid alike.solid' upward (.inl own)]

end Reading

/-- The place where the binary is looked for is named without going up, and it is in the base
directory or not below the storage root. -/
def LooksAside (m : Manager) (ways : FileTree) : Prop :=
  ".." ∉ Path.segments m.config.binaryPath ∧ (m.site ways).Sees (ways.locate m.config.binaryPath)

theorem LooksAside.isInstalled_eq {m : Manager} {ways : FileTree} {s s' : Machine}
    (aside : m.LooksAside ways) (alike : m.Alike ways s s') :
    m.isInstalled s'.files = m.isInstalled s.files := by
  refine alike.files.isExecutable_eq alike.solid alike.solid' aside.1 ?_
  rw [FileTree.locate_congr alike.solid.holds.current]
  exact aside.2

end Manager

end ServerKeeper
