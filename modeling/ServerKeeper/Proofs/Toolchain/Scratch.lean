import ServerKeeper.Manager.Server
import ServerKeeper.Proofs.FileTree.Directories
import ServerKeeper.Toolchain.Temporary

namespace ServerKeeper.Toolchain

theorem shownName_eq {name : List Char} (free : '\x00' ∉ name) : shownName name = name := by
  cases name with
  | nil => rfl
  | cons c rest =>
    have apart : c ≠ '\x00' := by
      rintro rfl
      exact free List.mem_cons_self
    simp [shownName, apart]

theorem Scratch.text_eq {s : Scratch} (free : '\x00' ∉ s.path.toList) : s.text = s.path := by
  have shown : (Text.splitOn '/' s.path.toList).map shownName = s.path.toList.splitOn '/' := by
    rw [Text.splitOn_eq]
    refine (List.map_congr_left fun name member => shownName_eq fun nul => free ?_).trans (List.map_id' _)
    have inside := Path.intercalate_sublist ['/'] (List.singleton_sublist.mpr member)
    rw [List.intercalate_splitOn, List.intercalate_singleton] at inside
    exact inside.mem nul
  rw [Scratch.text, shown, List.intercalate_splitOn, String.ofList_toList]

theorem filter_bindings (base : String) (scratch : Scratch) :
    (bindings base scratch).filter (·.1 == "GOTMPDIR") = [("GOTMPDIR", scratch.text)] := rfl

theorem absoluteRoot_congr {files others : FileTree} (current : others.current = files.current)
    (root : String) : absoluteRoot others root = absoluteRoot files root := by
  rw [absoluteRoot, absoluteRoot, current]

theorem absoluteRoot_of_isAbsolute {root : String} (absolute : Path.isAbsolute root = true)
    (files : FileTree) : absoluteRoot files root = root := by
  simp [absoluteRoot, Path.join, absolute]

theorem isAbsolute_absoluteRoot (files : FileTree) (root : String) :
    Path.isAbsolute (absoluteRoot files root) = true := by
  have above : Path.isAbsolute (FileTree.locationText files.current) = true := by
    rw [FileTree.locationText, Path.isAbsolute_append (by decide)]
    rfl
  have filled : FileTree.locationText files.current ≠ "" := by
    intro empty
    rw [empty] at above
    cases above
  rw [absoluteRoot, Path.join]
  split
  · rename_i alone
    simpa [filled] using alone
  · split
    · rwa [Path.isAbsolute_append filled]
    · rwa [String.append_assoc, Path.isAbsolute_append filled]

section Standing

variable {files : FileTree} {path last : String} {front : List String} {l : Location} {e : Entry}

/-- What stands at a path from the root, whether or not its names are Unicode. A link at its end is
not followed. -/
def standsAt? (files : FileTree) (path : String) : Option (Location × Entry) :=
  match files.walk false FileTree.maxLinks [] (Path.segments path) with
  | .ok ⟨l, some e, _⟩ => some (l, e)
  | _ => none

def directoryAt? (files : FileTree) (path : String) : Option Location :=
  match standsAt? files path with
  | some (l, .directory _) => some l
  | _ => none

theorem directoryAt?_eq_some_iff :
    directoryAt? files path = some l ↔ ∃ mode, standsAt? files path = some (l, .directory mode) := by
  unfold directoryAt?
  rcases standsAt? files path with _ | ⟨other, _ | mode | target⟩ <;> simp

structure Rooted (path : String) (front : List String) (last : String) : Prop where
  absolute : Path.isAbsolute path = true
  split : Path.segments path = front ++ [last]
  plain : Path.IsPlain last
  bare : FileTree.steps path = Path.segments path

theorem rooted_join (files : FileTree) (root : String) (plain : Path.IsPlain last) :
    Rooted (Path.join (absoluteRoot files root) last) (Path.segments (absoluteRoot files root)) last where
  absolute := (Path.isAbsolute_join plain.isSegment).trans (isAbsolute_absoluteRoot files root)
  split := Path.segments_join plain.isSegment
  plain := plain
  bare := (FileTree.steps_join plain).trans (Path.segments_join plain.isSegment).symm

theorem standsAt?_eq_some_iff (rooted : Rooted path front last) :
    standsAt? files path = some (l, e) ↔
      last.utf8ByteSize ≤ FileTree.maxName ∧
        ∃ left dir, files.Reaches path front left dir ∧ l = dir ++ [last] ∧ files.find? l = some e := by
  have begins (names : List String) : files.start path names = .ok [] :=
    FileTree.start_eq_ok_iff.mpr ⟨if_pos rooted.absolute, FileTree.leadsOn_of_directory rfl names⟩
  have walked : standsAt? files path = some (l, e) ↔
      ∃ slash, files.Leads false FileTree.maxLinks [] (front ++ [last]) ⟨l, some e, slash⟩ := by
    simp only [← FileTree.walk_eq_ok_iff, ← rooted.split, standsAt?]
    rcases files.walk false FileTree.maxLinks [] (Path.segments path) with
      fault | ⟨at_, _ | other, slash⟩ <;> simp
  rw [walked]
  constructor
  · rintro ⟨slash, leads⟩
    obtain ⟨left, dir, enters, ends⟩ := leads.split (by simp [FileTree.AtEnd, rooted.plain.1])
    obtain ⟨fits, same⟩ := (FileTree.leads_plain_iff rooted.plain).mp ends
    obtain ⟨rfl, found, -⟩ :
        l = dir ++ [last] ∧ some e = files.find? (dir ++ [last]) ∧ slash = false := by
      simpa using same
    exact ⟨fits, left, dir, ⟨[], begins front, enters⟩, rfl, found.symm⟩
  · rintro ⟨fits, left, dir, ⟨origin, begun, enters⟩, rfl, found⟩
    obtain rfl : [] = origin := Except.ok.inj ((begins front).symm.trans begun)
    refine ⟨false, enters.leads (by simp) ((FileTree.leads_plain_iff rooted.plain).mpr ⟨fits, ?_⟩)⟩
    rw [found]

theorem existing_eq_ok_iff (rooted : Rooted path front last) :
    files.existing false path = .ok (l, e) ↔
      FileTree.checkPath path = .ok () ∧ standsAt? files path = some (l, e) := by
  rw [standsAt?_eq_some_iff rooted]
  exact FileTree.existing_plain_iff rooted.split rooted.plain rooted.bare

theorem standsAt?_of_extends {larger : FileTree} (grown : files.Extends larger)
    (rooted : Rooted path front last) (stands : standsAt? files path = some (l, e)) :
    standsAt? larger path = some (l, e) := by
  obtain ⟨fits, left, dir, reaches, same, found⟩ := (standsAt?_eq_some_iff rooted).mp stands
  exact (standsAt?_eq_some_iff rooted).mpr
    ⟨fits, left, dir, grown.reaches reaches, same, grown.entry _ _ found⟩

theorem standsAt?_prune (rooted : Rooted path front last)
    (stood : standsAt? files path = some (l, e)) : standsAt? (files.prune l) path = none := by
  obtain ⟨-, left, dir, reaches, rfl, -⟩ := (standsAt?_eq_some_iff rooted).mp stood
  have proper : dir ++ [last] ≠ [] := by simp
  cases again : standsAt? (files.prune (dir ++ [last])) path with
  | none => rfl
  | some pair =>
    obtain ⟨other, e⟩ := pair
    obtain ⟨-, fewer, dir', before, rfl, found⟩ := (standsAt?_eq_some_iff rooted).mp again
    obtain ⟨-, rfl⟩ := reaches.unique ((FileTree.prune_extends proper files).reaches before)
    simp [FileTree.find?_prune proper] at found

end Standing

/-- A directory that is to be made: it has a name of its own under a root for temporary files, nothing
stands there, and its path leads there. -/
structure Scratch.Fresh (s : Scratch) (root : String) (files : FileTree) : Prop where
  named : ∃ name, Path.IsPlain name ∧ s.path = Path.join (absoluteRoot files root) name
  vacant : files.find? s.location = none
  leads : standsAt? (s.putInto files) s.path = some (s.location, .directory s.mode)
  usable : '\x00' ∉ s.path.toList → FileTree.checkPath s.path = .ok ()

/-- What is expected of a source of scratch directories. Each is new; dropping one takes it away with
all that it holds, if its path leads there from outside of it, and nothing else. -/
structure ScratchSource.Lawful (source : ScratchSource) : Prop where
  fresh : ∀ {calls files scratch}, files.WellFormed → source.make calls files = .ok scratch →
    scratch.Fresh source.root files
  dropped : ∀ {calls files scratch}, source.make calls files = .ok scratch → ∀ left : FileTree,
    directoryAt? (left.clear scratch.location) scratch.path = some scratch.location →
      source.drop scratch left = left.prune scratch.location
  missing : ∀ {calls files scratch}, source.make calls files = .ok scratch → ∀ left : FileTree,
    standsAt? left scratch.path = none → source.drop scratch left = left

namespace Scratch.Fresh

variable {s : Scratch} {root : String} {files : FileTree} (fresh : s.Fresh root files)

include fresh

theorem rooted : ∃ front last, Rooted s.path front last := by
  obtain ⟨name, plain, named⟩ := fresh.named
  exact ⟨_, name, named ▸ rooted_join files root plain⟩

theorem exists_location : ∃ dir name, s.location = dir ++ [name] := by
  obtain ⟨front, last, rooted⟩ := fresh.rooted
  obtain ⟨-, -, dir, -, same, -⟩ := (standsAt?_eq_some_iff rooted).mp fresh.leads
  exact ⟨dir, last, same⟩

theorem proper : s.location ≠ [] := by
  obtain ⟨dir, name, same⟩ := fresh.exists_location
  simp [same]

end Scratch.Fresh

theorem withScratch_outcome {α : Type} (source : ScratchSource) (body : Scratch → Action α)
    (s : Machine) :
    (withScratch source body).outcome s =
      match source.make s.calls s.files with
      | .error reason => (.error (.io ("Failed to create toolchain scratch directory: " ++ reason)), s)
      | .ok scratch =>
        let ran := (body scratch).outcome { s with files := scratch.putInto s.files }
        (ran.1, { ran.2 with files := source.drop scratch ran.2.files }) := by
  unfold withScratch makeScratch Action.outcome
  beta_reduce
  cases source.make s.calls s.files with
  | error => rfl
  | ok scratch =>
    dsimp only
    cases body scratch { s with files := scratch.putInto s.files } <;> rfl

theorem runCommand_outcome (r : Runner) (c : Command) (s : Machine) :
    (r.runCommand c).outcome s =
      ((r.run s.calls s.files c).1, ⟨(r.run s.calls s.files c).2, s.calls ++ [.run c s.files]⟩) := by
  unfold Runner.runCommand Action.outcome
  beta_reduce
  rcases r.run s.calls s.files c with ⟨_ | _, files⟩ <;> rfl

section Call

variable {t : Toolchain} {s : Machine} (arguments : List String)

theorem runSubcommand_of_noScratch {reason : String}
    (failed : t.scratch.make s.calls s.files = .error reason) :
    (t.runSubcommand arguments).outcome s =
      (.error (.io ("Failed to create toolchain scratch directory: " ++ reason)), s) := by
  rw [runSubcommand, withScratch_outcome, failed]

theorem runSubcommand_of_scratch {scratch : Scratch} {left : FileTree}
    {result : Except InstallError Output} (made : t.scratch.make s.calls s.files = .ok scratch)
    (ran : t.runner.run s.calls (scratch.putInto s.files)
      ⟨t.program, arguments, bindings t.baseDir scratch⟩ = (result, left)) :
    (t.runSubcommand arguments).outcome s =
      (result, ⟨t.scratch.drop scratch left, s.calls ++
        [.run ⟨t.program, arguments, bindings t.baseDir scratch⟩ (scratch.putInto s.files)]⟩) := by
  simp only [runSubcommand, withScratch_outcome, made, runCommand_outcome, ran]

end Call

/-- One command that was run in a scratch directory: the files before that was made, as the command
left them, and at the end of the call. -/
structure Use where
  before : FileTree
  scratch : Scratch
  command : Command
  left : FileTree
  after : FileTree

def Use.found (u : Use) : FileTree := u.scratch.putInto u.before

/-- What a call of a toolchain runs: one command, or none where it has no scratch directory. -/
def uses (t : Toolchain) (arguments : List String) (s : Machine) : List Use :=
  match t.scratch.make s.calls s.files with
  | .error _ => []
  | .ok scratch =>
    let command : Command := ⟨t.program, arguments, bindings t.baseDir scratch⟩
    [{ before := s.files
       scratch
       command
       left := (t.runner.run s.calls (scratch.putInto s.files) command).2
       after := ((t.runSubcommand arguments).outcome s).2.files }]

structure Use.Made (u : Use) (source : ScratchSource) : Prop where
  made : ∃ calls, source.make calls u.before = .ok u.scratch
  told : ∃ base, u.command.bindings = bindings base u.scratch
  after : u.after = source.drop u.scratch u.left

theorem uses_cases (t : Toolchain) (arguments : List String) (s : Machine) :
    t.uses arguments s = [] ∧ ((t.runSubcommand arguments).outcome s).2 = s ∨
      ∃ u : Use, t.uses arguments s = [u] ∧ u.Made t.scratch ∧ u.before = s.files ∧
        ((t.runSubcommand arguments).outcome s).2 = ⟨u.after, s.calls ++ [.run u.command u.found]⟩ := by
  unfold uses
  cases made : t.scratch.make s.calls s.files with
  | error reason =>
    left
    rw [runSubcommand_of_noScratch arguments made]
    exact ⟨rfl, rfl⟩
  | ok scratch =>
    right
    have ends := congrArg Prod.snd (runSubcommand_of_scratch arguments made rfl)
    exact ⟨_, rfl, ⟨⟨_, made⟩, ⟨_, rfl⟩, congrArg Machine.files ends⟩, rfl,
      ends.trans (congrArg (Machine.mk · _) (congrArg Machine.files ends).symm)⟩

/-- What a command may do to its own scratch directory: anything inside, and taking it away. For as
long as it stands its path leads to it, and from outside of it; then the path leads nowhere. -/
def Use.Spares (u : Use) : Prop :=
  directoryAt? (u.left.clear u.scratch.location) u.scratch.path = some u.scratch.location ∨
    u.left.find? u.scratch.location = none ∧ standsAt? u.left u.scratch.path = none

instance (u : Use) : Decidable u.Spares := by
  unfold Use.Spares
  infer_instance

/-- A use of a scratch directory under a root, from its making to its end. -/
structure Use.Scoped (u : Use) (root : String) : Prop where
  named : ∃ name, Path.IsPlain name ∧ u.scratch.path = Path.join (absoluteRoot u.before root) name
  /-- The command is told of it once, by its text, which is its path if that is Unicode. -/
  told : u.command.bindings.filter (·.1 == "GOTMPDIR") = [("GOTMPDIR", u.scratch.text)]
  spelled : '\x00' ∉ u.scratch.path.toList → u.scratch.text = u.scratch.path ∧
    u.found.existing false u.scratch.path = .ok (u.scratch.location, .directory u.scratch.mode)
  /-- It is new, it is there, it is empty, and nothing else was made. -/
  fresh : ∀ more, u.before.find? (u.scratch.location ++ more) = none
  stands : standsAt? u.found u.scratch.path = some (u.scratch.location, .directory u.scratch.mode)
  empty : ∀ more, more ≠ [] → u.found.find? (u.scratch.location ++ more) = none
  made : ∀ other, other ≠ u.scratch.location → u.found.find? other = u.before.find? other
  /-- At the end it is gone, and all outside of it is as the command left it. -/
  gone : ∀ more, u.after.find? (u.scratch.location ++ more) = none
  unnamed : standsAt? u.after u.scratch.path = none
  kept : ∀ other, ¬u.scratch.location <+: other → u.after.find? other = u.left.find? other
  current : u.found.current = u.before.current ∧ u.after.current = u.left.current

theorem Use.Made.ends {u : Use} {source : ScratchSource} (made : u.Made source)
    (lawful : source.Lawful) (before : u.before.WellFormed) (left : u.left.WellFormed)
    (spares : u.Spares) :
    u.after.WellFormed ∧ u.after.current = u.left.current ∧
      standsAt? u.after u.scratch.path = none ∧
      (∀ more, u.after.find? (u.scratch.location ++ more) = none) ∧
      ∀ other, ¬u.scratch.location <+: other → u.after.find? other = u.left.find? other := by
  obtain ⟨calls, source_made⟩ := made.made
  have fresh := lawful.fresh before source_made
  have proper := fresh.proper
  obtain ⟨front, last, rooted⟩ := fresh.rooted
  rcases spares with outside | ⟨vacant, missing⟩
  · have after : u.after = u.left.prune u.scratch.location :=
      made.after.trans (lawful.dropped source_made u.left outside)
    obtain ⟨mode, inside⟩ := directoryAt?_eq_some_iff.mp outside
    have stood := standsAt?_of_extends (FileTree.clear_extends _ _) rooted inside
    rw [after]
    refine ⟨left.prune proper, rfl, standsAt?_prune rooted stood, fun more => ?_, fun other apart => ?_⟩
    · rw [FileTree.find?_prune proper, if_pos (List.prefix_append ..)]
    · rw [FileTree.find?_prune proper, if_neg apart]
  · -- the command took it away itself, and then there is nothing to drop
    have after : u.after = u.left := made.after.trans (lawful.missing source_made u.left missing)
    rw [after]
    exact ⟨left, rfl, missing, left.vacant_below vacant, fun _ _ => rfl⟩

theorem Use.Made.scoped_of_spares {u : Use} {source : ScratchSource} (made : u.Made source)
    (lawful : source.Lawful) (before : u.before.WellFormed) (left : u.left.WellFormed)
    (spares : u.Spares) : u.after.WellFormed ∧ u.Scoped source.root := by
  obtain ⟨calls, source_made⟩ := made.made
  have fresh := lawful.fresh before source_made
  have proper := fresh.proper
  obtain ⟨front, last, rooted⟩ := fresh.rooted
  obtain ⟨base, told⟩ := made.told
  obtain ⟨wellFormed, current, unnamed, gone, kept⟩ := made.ends lawful before left spares
  refine ⟨wellFormed, fresh.named, ?_, fun free => ?_, before.vacant_below fresh.vacant, fresh.leads,
    fun more filled => ?_, fun other apart => ?_, gone, unnamed, kept, rfl, current⟩
  · rw [told, filter_bindings]
  · exact ⟨Scratch.text_eq free, (existing_eq_ok_iff rooted).mpr ⟨fresh.usable free, fresh.leads⟩⟩
  · rw [Use.found, Scratch.putInto, FileTree.find?_put proper, if_neg (by simpa using filled)]
    exact before.vacant_below fresh.vacant more
  · rw [Use.found, Scratch.putInto, FileTree.find?_put proper, if_neg apart]

end ServerKeeper.Toolchain
