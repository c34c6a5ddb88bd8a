import ServerKeeper.Proofs.Manager.Confinement
import ServerKeeper.Proofs.Toolchain.Temporary

namespace ServerKeeper

open Toolchain (Runner)

def Answer.withoutBinary : Answer → Answer
  | .installed _ => .installed false
  | .report status => .report { status with installed := false }
  | answer => answer

namespace Session

structure Mirrors (ways : FileTree) (se other : Session) : Prop where
  manager : other.manager = se.manager
  state : other.life.state = se.life.state
  events : other.life.events = se.life.events
  machine : se.manager.Alike ways se.life.server other.life.server

variable {ways : FileTree} {se other : Session}

theorem confined_step (confined : se.manager.ConfinedToBase ways) (request : Request) :
    (se.step request).2.manager.ConfinedToBase ways := by
  cases request with
  | adjust =>
    exact ⟨⟨confined.plain.root, confined.plain.package⟩, confined.server, confined.fits, confined.spared,
      confined.lawful, confined.scratch, confined.runner⟩
  | _ => exact confined

theorem doneAt_step (confined : se.manager.ConfinedToBase ways) (solid : ways.Solid se.files)
    (request : Request) :
    se.files.DoneAt (se.manager.site ways) (se.step request).2.files ways := by
  have unchanged : se.files.DoneAt (se.manager.site ways) se.files ways :=
    FileTree.doneAt_refl solid
  cases request with
  | install => exact confined.keeps_install se.files se.life.server unchanged
  | uninstall => exact confined.keeps_uninstall se.files se.life.server unchanged
  | activate =>
    have server := Manager.activate_server se.manager se.life
    simp only [step, files, server]
    split
    · exact confined.keeps_install se.files se.life.server unchanged
    · exact unchanged
  | _ => exact unchanged

theorem Mirrors.activate (mirrors : se.Mirrors ways other) (confined : se.manager.ConfinedToBase ways) :
    (other.step .activate).1 = (se.step .activate).1 ∧
      (se.step .activate).2.Mirrors ways (other.step .activate).2 := by
  obtain ⟨manager, state, events, machine⟩ := mirrors
  obtain ⟨m, ⟨server, state', events'⟩⟩ := other
  dsimp only at manager state events machine
  subst manager state events
  have needed := confined.needsInstall_eq machine
  obtain ⟨result, after⟩ := confined.agrees_install.related machine
  simp only [step]
  cases needs : se.manager.needsInstall se.life.server.files with
  | false =>
    have one := Lifecycle.activate_upToDate (s := se.manager.server) (l := se.life)
      (congrArg (·, se.life.server) needs)
    have two := Lifecycle.activate_upToDate (s := se.manager.server)
      (l := ⟨server, se.life.state, se.life.events⟩) (congrArg (·, server) (needed.trans needs))
    rw [one, two]
    exact ⟨rfl, rfl, rfl, rfl, machine⟩
  | true =>
    have one := congrArg (·, se.life.server) needs
    have two := congrArg (·, server) (needed.trans needs)
    rcases first : se.manager.install.outcome se.life.server with ⟨e | _, left⟩ <;>
      rcases second : se.manager.install.outcome server with ⟨e' | _, left'⟩ <;>
      rw [first, second] at result after <;> cases result
    · rw [Lifecycle.activate_failed (s := se.manager.server) one first,
        Lifecycle.activate_failed (s := se.manager.server)
          (l := ⟨server, se.life.state, se.life.events⟩) two second]
      exact ⟨rfl, rfl, rfl, rfl, after⟩
    · rw [Lifecycle.activate_installed (s := se.manager.server) one first,
        Lifecycle.activate_installed (s := se.manager.server)
          (l := ⟨server, se.life.state, se.life.events⟩) two second]
      exact ⟨rfl, rfl, rfl, rfl, after⟩

theorem Mirrors.step (mirrors : se.Mirrors ways other) (confined : se.manager.ConfinedToBase ways)
    (request : Request) :
    (other.step request).1.withoutBinary = (se.step request).1.withoutBinary ∧
      (se.manager.LooksAside ways → (other.step request).1 = (se.step request).1) ∧
      (se.step request).2.Mirrors ways (other.step request).2 := by
  have active := mirrors.activate confined
  obtain ⟨manager, state, events, machine⟩ := mirrors
  obtain ⟨m, ⟨server, state', events'⟩⟩ := other
  dsimp only at manager state events machine
  subst manager state events
  have still : se.Mirrors ways ⟨se.manager, ⟨server, se.life.state, se.life.events⟩⟩ :=
    ⟨rfl, rfl, rfl, machine⟩
  have needed := confined.needsInstall_eq machine
  have version := confined.installedVersion?_eq machine
  cases request with
  | needsInstall =>
    simp only [Session.step, files, needed]
    exact ⟨trivial, fun _ => trivial, still⟩
  | isInstalled =>
    refine ⟨rfl, fun aside => ?_, still⟩
    simp only [Session.step, files, aside.isInstalled_eq machine]
  | installedVersion =>
    simp only [Session.step, reading, files, version]
    exact ⟨trivial, fun _ => trivial, still⟩
  | binaryPath => exact ⟨rfl, fun _ => rfl, still⟩
  | status listing =>
    refine ⟨?_, fun aside => ?_, still⟩
    · simp only [Session.step, files, Answer.withoutBinary, Manager.status, needed, version]
    · simp only [Session.step, files, Manager.status, needed, version, aside.isInstalled_eq machine]
  | install =>
    obtain ⟨result, after⟩ := confined.agrees_install.related machine
    simp only [Session.step, result]
    exact ⟨trivial, fun _ => trivial, rfl, rfl, rfl, after⟩
  | uninstall =>
    obtain ⟨result, after⟩ := confined.agrees_uninstall.related machine
    simp only [Session.step, result]
    exact ⟨trivial, fun _ => trivial, rfl, rfl, rfl, after⟩
  | check =>
    rw [Session.step, Session.step, Lifecycle.check_eq (s := se.manager.server)
        (l := ⟨server, se.life.state, se.life.events⟩) (congrArg (·, server) needed),
      Lifecycle.check_eq (s := se.manager.server) rfl]
    exact ⟨rfl, fun _ => rfl, rfl, rfl, rfl, machine⟩
  | activate => exact ⟨congrArg _ active.1, fun _ => active.1, active.2⟩
  | adjust => exact ⟨rfl, fun _ => rfl, rfl, rfl, rfl, machine⟩

theorem isInstalled_of_status {listing : Option (List Release)}
    (same : (se.step (.status listing)).1 = (other.step (.status listing)).1) :
    se.manager.isInstalled se.files = other.manager.isInstalled other.files :=
  congrArg Status.installed (Answer.report.inj same)

def seeing (se : Session) (files : FileTree) : Session :=
  { se with life := { se.life with server := { se.life.server with files } } }

end Session

namespace Neighbours

variable {ι : Type} [DecidableEq ι]

/-- One of several sessions is asked for something. What it makes of the files is seen by all. -/
def step (n : ι → Session) (i : ι) (request : Request) : ι → Session :=
  let left := ((n i).step request).2
  fun j => if j = i then left else (n j).seeing left.files

def run (n : ι → Session) (requests : List (ι × Request)) : ι → Session :=
  requests.foldl (fun n request => step n request.1 request.2) n

def own (i : ι) (requests : List (ι × Request)) : List Request :=
  (requests.filter (·.1 = i)).map Prod.snd

end Neighbours

/-- Sessions over the same files, whose managers are at home under one storage root in directories of
their own. -/
structure Neighbours {ι : Type} (ways : FileTree) (n : ι → Session) : Prop where
  shared : ∀ i j, (n i).files = (n j).files
  confined : ∀ i, (n i).manager.ConfinedToBase ways
  root : ∀ i j, (n i).manager.config.storageRoot = (n j).manager.config.storageRoot
  apart : ∀ i j, i ≠ j → (n i).manager.config.packageName ≠ (n j).manager.config.packageName

namespace Neighbours

variable {ι : Type} [DecidableEq ι] {ways : FileTree} {n alone : ι → Session}

omit [DecidableEq ι] in
/-- What is asked of one session does not show to the others, but for directories on the way to the
storage root. -/
theorem resembles_step (neighbours : Neighbours ways n) {i j : ι} (solid : ways.Solid (n i).files)
    (request : Request) (other : i ≠ j) :
    (n j).files.Resembles ((n j).manager.site ways) ((n j).manager.site ways).Sees
      ((n i).step request).2.files := by
  have done := Session.doneAt_step (neighbours.confined i) solid request
  have start : ((n i).manager.site ways).start = ((n j).manager.site ways).start := by
    rw [Manager.site, Manager.site, neighbours.root i j]
  have way : ((n i).manager.site ways).way = ((n j).manager.site ways).way := by
    rw [Manager.site, Manager.site, neighbours.root i j]
  rw [neighbours.shared j i]
  exact done.outside.beside start way (neighbours.apart i j other)

theorem step_self (n : ι → Session) (i : ι) (request : Request) :
    step n i request i = ((n i).step request).2 := if_pos rfl

theorem step_other (n : ι → Session) {i j : ι} (request : Request) (other : j ≠ i) :
    step n i request j = (n j).seeing ((n i).step request).2.files := if_neg other

theorem files_step (n : ι → Session) (i j : ι) (request : Request) :
    (step n i request j).files = ((n i).step request).2.files := by
  by_cases self : j = i
  · rw [self, step_self]
  · rw [step_other n request self]
    rfl

theorem place_step (n : ι → Session) (i j : ι) (request : Request) :
    (step n i request j).manager.config.storageRoot = (n j).manager.config.storageRoot ∧
      (step n i request j).manager.config.packageName = (n j).manager.config.packageName := by
  by_cases self : j = i
  · subst self
    rw [step_self]
    exact (n j).step_place request
  · rw [step_other n request self]
    exact ⟨rfl, rfl⟩

theorem neighbours_step (neighbours : Neighbours ways n) (i : ι) (request : Request) :
    Neighbours ways (step n i request) := by
  refine ⟨fun j k => ?_, fun j => ?_, fun j k => ?_, fun j k other => ?_⟩
  · rw [files_step, files_step]
  · by_cases self : j = i
    · subst self
      rw [step_self]
      exact Session.confined_step (neighbours.confined j) request
    · rw [step_other n request self]
      exact neighbours.confined j
  · rw [(place_step n i j request).1, (place_step n i k request).1]
    exact neighbours.root j k
  · rw [(place_step n i j request).2, (place_step n i k request).2]
    exact neighbours.apart j k other

theorem mirrors_step (neighbours : Neighbours ways n) (mirrors : ∀ i, (alone i).Mirrors ways (n i))
    (i : ι) (request : Request) (j : ι) :
    (if j = i then ((alone j).step request).2 else alone j).Mirrors ways (step n i request j) := by
  have confined (k : ι) : (alone k).manager.ConfinedToBase ways :=
    (mirrors k).manager ▸ neighbours.confined k
  by_cases self : j = i
  · subst self
    rw [if_pos rfl, step_self]
    exact ((mirrors j).step (confined j) request).2.2
  · have solid := (mirrors i).machine.solid'
    have done := Session.doneAt_step (neighbours.confined i) solid request
    have unseen := neighbours.resembles_step solid request (Ne.symm self)
    rw [(mirrors j).manager] at unseen
    obtain ⟨manager, state, events, machine⟩ := mirrors j
    rw [if_neg self, step_other n request self]
    exact ⟨manager, state, events,
      ⟨machine.calls, machine.solid, done.solid, machine.files.trans unseen⟩⟩

theorem own_cons (i j : ι) (request : Request) (requests : List (ι × Request)) :
    own j ((i, request) :: requests) = if j = i then request :: own j requests else own j requests := by
  unfold own
  rw [List.filter_cons]
  by_cases self : i = j <;> simp [self, eq_comm]

theorem mirrors_run (neighbours : Neighbours ways n) (mirrors : ∀ i, (alone i).Mirrors ways (n i))
    (requests : List (ι × Request)) (j : ι) :
    ((alone j).run (own j requests)).Mirrors ways (run n requests j) ∧
      (run n requests j).manager.ConfinedToBase ways := by
  induction requests generalizing n alone with
  | nil => exact ⟨mirrors j, neighbours.confined j⟩
  | cons first requests ih =>
    obtain ⟨i, request⟩ := first
    have later := ih (neighbours.neighbours_step i request) (neighbours.mirrors_step mirrors i request)
    rw [own_cons]
    by_cases self : j = i
    · rw [if_pos self] at later ⊢
      exact later
    · rw [if_neg self] at later ⊢
      exact later

def plant (t : FileTree) (dir : Location) (name : String) (e : Entry) : FileTree :=
  if t.hasDirectory dir ∧ t.find? (dir ++ [name]) = none then t.put (dir ++ [name]) e else t

theorem plant_cases (t : FileTree) (dir : Location) (name : String) (e : Entry) :
    plant t dir name e = t ∨
      plant t dir name e = t.put (dir ++ [name]) e ∧ t.hasDirectory dir = true ∧
        t.find? (dir ++ [name]) = none := by
  unfold plant
  split
  · rename_i fits
    exact .inr ⟨rfl, fits.1, fits.2⟩
  · exact .inl rfl

section Plant

variable {t u : FileTree} {base dir : Location} {name : String} {e : Entry}

theorem wellFormed_plant (wf : t.WellFormed) : (plant t dir name e).WellFormed := by
  rcases plant_cases t dir name e with same | ⟨planted, directory, vacant⟩
  · rwa [same]
  · obtain ⟨mode, above⟩ := FileTree.hasDirectory_iff.mp directory
    rw [planted]
    exact wf.put above (by simp [vacant])

theorem linkFree_plant (free : t.LinkFree) (noLink : ∀ target, e ≠ .link target) :
    (plant t dir name e).LinkFree := by
  rcases plant_cases t dir name e with same | ⟨planted, -⟩
  · rwa [same]
  · rw [planted]
    exact free.put (by simp) noLink

theorem matches_plant (own : base <+: dir) (same : u.Matches (¬base <+: ·) t) :
    u.Matches (¬base <+: ·) (plant t dir name e) := by
  rcases plant_cases t dir name e with unchanged | ⟨planted, -⟩
  · rwa [unchanged]
  · rw [planted]
    refine ⟨same.current, fun l outside => ?_⟩
    rw [FileTree.find?_put (by simp), if_neg, same.entry l outside]
    rintro rfl
    exact outside (own.trans (List.prefix_append ..))

theorem sameBelow_plant (own : base <+: dir) (same : t.SameBelow base u) :
    (plant t dir name e).SameBelow base (plant u dir name e) := by
  obtain ⟨below, rfl⟩ := own
  have directory := same below
  have entry := same (below ++ [name])
  rw [← List.append_assoc] at entry
  intro more
  unfold plant FileTree.hasDirectory
  rw [directory, entry]
  split
  · rw [FileTree.find?_put (by simp), FileTree.find?_put (by simp), same more]
  · exact same more

end Plant

def builder (base : Location) (server : String) : Runner where
  find := fun _ _ _ => some "/usr/local/go/bin/go"
  run := fun _ files command =>
    (.ok ⟨"go version go1.21.4 linux/amd64\n", "", some 0⟩,
      if command.arguments = ["version"] then files
      else plant (plant files base "bin" (.directory 0o755)) (base ++ ["bin"]) server
        (.file .empty 0o755))

theorem confined_builder (path : String) (base : Location) (server : String) :
    (builder base server).Confined path base where
  find _ _ _ := rfl
  run command _ _ same := by
    refine ⟨rfl, ?_⟩
    unfold builder
    dsimp only
    split
    · exact same
    · exact sameBelow_plant (List.prefix_append ..) (sameBelow_plant (List.prefix_refl _) same)
  outside calls files command _ := by
    unfold builder
    dsimp only
    split
    · exact files.matches_refl
    · exact matches_plant (List.prefix_append ..)
        (matches_plant (List.prefix_refl _) files.matches_refl)
  wellFormed calls files command _ wf := by
    unfold builder
    dsimp only
    split
    · exact wf
    · exact wellFormed_plant (wellFormed_plant wf)
  linkFree calls files command _ free := by
    unfold builder
    dsimp only
    split
    · exact free
    · exact linkFree_plant (linkFree_plant free nofun) nofun

/-- Two managers of one server, in directories of two names under a storage root of the working
directory. -/
def pairAt (root temporary : String) (files : FileTree) (second : Bool) : Session :=
  let package := if second then "LSP-other" else "LSP-gopls"
  ⟨⟨{ Config.ofRoot root with packageName := package },
    builder ("work" :: Path.segments root ++ [package]) "gopls", .under temporary⟩, .start ⟨files, []⟩⟩

def pair : Bool → Session :=
  pairAt "store" "/tmp" (Manager.rehearsedFiles [])

theorem solid_pair (second : Bool) : (Manager.rehearsedFiles []).Solid (pair second).files := by
  have wf : (Manager.rehearsedFiles []).WellFormed := FileTree.wellFormed_of_placesAll (by decide)
  have free : (Manager.rehearsedFiles []).LinkFree :=
    FileTree.linkFree_of_entries (by simp [Manager.rehearsedFiles])
  exact ⟨wf, free, ⟨rfl, fun _ _ found => found⟩⟩

theorem under_drawsFrom {root : String} (absolute : Path.isAbsolute root = true) {left : Nat}
    {dir : Location} (reaches : ways.Reaches root (Path.segments root) left dir) (base : Location) :
    (Toolchain.ScratchSource.under root).DrawsFrom base ways dir := by
  intro calls others files files' alike solid solid' same
  rw [← Toolchain.absoluteRoot_of_isAbsolute absolute files] at reaches
  exact Toolchain.under_make_congr (solid'.holds.current.trans solid.holds.current.symm)
    (solid.holds.reaches reaches) (solid'.holds.reaches reaches) same alike.length_eq.symm absolute

theorem confined_pair (second : Bool) :
    (pair second).manager.ConfinedToBase (Manager.rehearsedFiles []) := by
  have wf : (Manager.rehearsedFiles []).WellFormed := FileTree.wellFormed_of_placesAll (by decide)
  refine ⟨⟨?_, ?_⟩, ?_, ?_, ?_, ?_, ?_, ?_⟩
  · cases second <;> decide
  · cases second <;> decide
  · cases second <;> decide
  · cases second <;> decide
  · rintro l ⟨more, rfl⟩
    exact wf.vacant_below (by cases second <;> decide) more
  · exact Toolchain.under_lawful "/tmp"
  · have absolute : Path.isAbsolute "/tmp" = true := by decide
    have reaches : (Manager.rehearsedFiles []).Reaches "/tmp" (Path.segments "/tmp") FileTree.maxLinks
        ["tmp"] :=
      ⟨[], rfl, .into ⟨by decide, by decide, by decide, by decide⟩ rfl .here⟩
    refine ⟨FileTree.maxLinks, ["tmp"], ?_, by cases second <;> decide, under_drawsFrom absolute reaches _⟩
    change (Manager.rehearsedFiles []).Reaches (Toolchain.absoluteRoot _ "/tmp")
      (Path.segments (Toolchain.absoluteRoot _ "/tmp")) _ _
    rwa [Toolchain.absoluteRoot_of_isAbsolute absolute]
  · cases second <;> exact confined_builder _ _ _

theorem neighbours_pair : Neighbours (Manager.rehearsedFiles []) pair := by
  refine ⟨fun _ _ => rfl, confined_pair, fun _ _ => rfl, ?_⟩
  decide

/-- The same two with a scratch root whose path goes into the base directory of one of them and out
again. -/
def pairThroughBase : Bool → Session :=
  pairAt "store" "store/LSP-gopls/../../../tmp" (Manager.rehearsedFiles
    [(["store"], .directory 0o755), (["store", "LSP-gopls"], .directory 0o755)])

end Neighbours

end ServerKeeper
