import ServerKeeper.Proofs.FileTree.Straight
import ServerKeeper.Proofs.Manager.Session

namespace ServerKeeper

namespace FileTree

section Smaller

variable {t u : FileTree} (smaller : u.Extends t)

include smaller

theorem Extends.entry_cases {l : Location} {e : Entry} (found : t.find? l = some e) :
    u.find? l = some e ∨ u.find? l = none := by
  cases kept : u.find? l with
  | none => exact .inr rfl
  | some e' =>
    left
    rw [← found, smaller.entry l e' kept]

/-- Names that lead to a directory lead there in a smaller tree too, unless something on the way is
missing. -/
theorem Enters.fewer {links left : Nat} {here dir : Location} {names rest : List String}
    (enters : Enters t links here names left dir) (more : ¬AtEnd rest) (followLast : Bool) :
    Enters u links here names left dir ∨
      walk u followLast links here (names ++ rest) = .error .notFound := by
  induction enters with
  | here => exact .inl .here
  | skip stays _ ih =>
    refine ih.imp (.skip stays) fun missing => ?_
    rw [walk_eq_follow, List.cons_append, follow, if_pos stays, ← walk_eq_follow, missing]
  | up _ ih =>
    refine ih.imp .up fun missing => ?_
    rw [walk_eq_follow, List.cons_append, follow, if_neg (by decide), if_pos rfl, ← walk_eq_follow,
      missing]
  | into isName found _ ih =>
    rcases smaller.entry_cases found with kept | gone
    · refine ih.imp (.into isName kept) fun missing => ?_
      rw [walk_eq_follow, List.cons_append, follow_of_isName isName, kept]
      simpa only [walk_eq_follow] using missing
    · right
      rw [walk_eq_follow, List.cons_append, follow_of_isName isName, gone]
      exact if_neg (not_atEnd_append more)
  | @link _ _ _ names target _ _ isName found filled _ ih =>
    rcases smaller.entry_cases found with kept | gone
    · refine ih.imp (.link isName kept filled) fun missing => ?_
      have some : rest ≠ [] := fun none => more (.inl none)
      have next : names ++ rest ≠ [] := List.append_ne_nil_of_right_ne_nil _ some
      rw [walk_eq_follow, List.cons_append, follow_of_isName isName, kept]
      simp only [next, false_and, if_false, if_neg filled, linked]
      rw [linkSteps_append target some, missing]
    · right
      rw [walk_eq_follow, List.cons_append, follow_of_isName isName, gone]
      exact if_neg (not_atEnd_append more)

theorem start_fewer {path : String} {names : List String} {here : Location}
    (begins : t.start path names = .ok here) (others : List String) :
    u.start path others = .ok here ∨ u.start path others = .error .notFound := by
  obtain ⟨rfl, -⟩ := start_eq_ok_iff.mp begins
  rw [start, origin, ← smaller.current, ← origin]
  cases u.leadsOn (t.origin path) others <;> simp

theorem Reaches.fewer {path name : String} {names : List String} {left : Nat} {dir : Location}
    (reaches : t.Reaches path names left dir) (checked : checkPath path = .ok ())
    (plain : Path.IsPlain name) (followLast : Bool) :
    u.Reaches path names left dir ∨
      u.approach followLast path (names ++ [name]) = .error .notFound := by
  have more : ¬AtEnd [name] := by simp [AtEnd, plain.1]
  obtain ⟨origin, begins, enters⟩ := reaches
  rcases start_fewer smaller begins (names ++ [name]) with again | nowhere
  · refine (enters.fewer smaller more followLast).imp
      (fun kept => ⟨origin, start_before plain again, kept⟩) fun missing => ?_
    simp only [FileTree.approach, checked, again, missing, bind, Except.bind]
  · right
    simp only [FileTree.approach, checked, nowhere, bind, Except.bind]

end Smaller

/-- What a path may lead to where its tree is to be removed: to nothing, a directory or a link. -/
inductive Removable : Except FileFault (Location × Entry) → Prop
  | missing : Removable (.error .notFound)
  | directory {l mode} : Removable (.ok (l, .directory mode))
  | link {l target} : Removable (.ok (l, .link target))

/-- What removing a tree leaves, where something stood at its path. A directory stays behind, empty, only
where the path led to it over what stood in it. -/
structure Removed (t : FileTree) (path : String) (front : List String) (l : Location)
    (left : FileTree) : Prop where
  smaller : left.Extends t
  gone : left.existing false path = .error .notFound
  outside : ∀ other, ¬l <+: other → left.find? other = t.find? other
  below : ∀ other, l <+: other → other ≠ l → left.find? other = none
  itself : (∃ links dir, left.Reaches path front links dir) → left.find? l = none

section Removed

variable {t u : FileTree} {path last : String} {front : List String} {l : Location} {e : Entry}
  (split : Path.segments path = front ++ [last]) (plain : Path.IsPlain last)
  (bare : steps path = Path.segments path) (stood : t.existing false path = .ok (l, e))

include split plain bare stood

theorem existing_fewer (smaller : u.Extends t) :
    u.existing false path = .ok (l, e) ∨ u.existing false path = .error .notFound := by
  obtain ⟨checked, fits, left, dir, reaches, rfl, found⟩ :=
    (existing_plain_iff split plain bare).mp stood
  rcases reaches.fewer smaller checked plain false with again | missing
  · rcases smaller.entry_cases found with kept | gone
    · left
      exact (existing_plain_iff split plain bare).mpr ⟨checked, fits, _, dir, again, rfl, kept⟩
    · right
      have place : u.place false path = .ok ⟨dir ++ [last], none, false⟩ := by
        rw [FileTree.place, bare]
        exact (approach_plain_iff split plain).mpr ⟨checked, fits, _, dir, again, by rw [gone]⟩
      simp only [existing, place, bind, Except.bind]
  · right
    rw [← split] at missing
    simp only [existing, FileTree.place, bare, missing, bind, Except.bind]

theorem opens_of_directory {mode : Nat} (directory : e = .directory mode) : t.Opens path := by
  obtain ⟨-, fits, left, dir, reaches, rfl, found⟩ :=
    (existing_plain_iff split plain bare).mp stood
  subst directory
  refine ⟨left, dir ++ [last], ?_⟩
  rw [split]
  exact reaches.append (.into (isName_of_isPlain plain fits) found .here)

theorem find?_of_gone (smaller : u.Extends t) (gone : u.existing false path = .error .notFound)
    (way : ∃ links dir, u.Reaches path front links dir) : u.find? l = none := by
  obtain ⟨checked, fits, _, dir, reaches, rfl, -⟩ := (existing_plain_iff split plain bare).mp stood
  obtain ⟨links, other, again⟩ := way
  obtain ⟨-, rfl⟩ := reaches.unique (smaller.reaches again)
  cases still : u.find? (dir ++ [last]) with
  | none => rfl
  | some e' =>
    have found := (existing_plain_iff split plain bare).mpr
      ⟨checked, fits, links, dir, again, rfl, still⟩
    rw [gone] at found
    cases found

theorem removed_of_prune (smaller : u.Extends t)
    (entries : ∀ other, u.find? other = if l <+: other then none else t.find? other) :
    t.Removed path front l u := by
  have vacant : u.find? l = none := by rw [entries, if_pos (List.prefix_refl l)]
  have gone : u.existing false path = .error .notFound := by
    refine (existing_fewer split plain bare stood smaller).resolve_left fun found => ?_
    obtain ⟨-, -, _, _, -, -, still⟩ := (existing_plain_iff split plain bare).mp found
    rw [vacant] at still
    cases still
  exact ⟨smaller, gone, fun other apart => by rw [entries, if_neg apart],
    fun other below _ => by rw [entries, if_pos below], fun _ => vacant⟩

theorem removed_of_clear (directory : ∃ mode, e = .directory mode)
    (closed : ¬(t.clear l).Opens path) : t.Removed path front l (t.clear l) := by
  have smaller := clear_extends l t
  have gone : (t.clear l).existing false path = .error .notFound := by
    refine (existing_fewer split plain bare stood smaller).resolve_left fun found => ?_
    obtain ⟨mode, same⟩ := directory
    exact closed (opens_of_directory split plain bare found same)
  refine ⟨smaller, gone, fun other apart => ?_, fun other below proper => ?_,
    find?_of_gone split plain bare stood smaller gone⟩
  · rw [find?_clear, if_neg fun below => apart below.1]
  · rw [find?_clear, if_pos ⟨below, proper⟩]

theorem removeTree_removable (removable : Removable (.ok (l, e))) :
    ∃ left, t.removeTree path = (.ok (), left) ∧ t.Removed path front l left := by
  obtain ⟨checked, fits, _, dir, reaches, rfl, entry⟩ :=
    (existing_plain_iff split plain bare).mp stood
  have proper : dir ++ [last] ≠ [] := by simp
  simp only [removeTree, stood]
  cases removable with
  | link =>
    exact ⟨_, rfl, removed_of_prune split plain bare stood (prune_extends proper t)
      (find?_prune proper t)⟩
  | @directory _ mode =>
    rcases removeEmptied_clear split plain checked fits reaches entry with pruned | ⟨kept, closed⟩
    · exact ⟨_, pruned, removed_of_prune split plain bare stood (removed_extends proper t)
        (find?_removed proper t)⟩
    · exact ⟨_, kept, removed_of_clear split plain bare stood ⟨mode, rfl⟩ closed⟩

end Removed

theorem isExecutable_of_not_opens {t : FileTree} {base dir name : String} (inner : Path.IsPlain dir)
    (plain : Path.IsPlain name) (closed : ¬t.Opens base) :
    t.isExecutable (Path.join (Path.join base dir) name) = false := by
  rw [Bool.eq_false_iff]
  intro executable
  obtain ⟨l, content, mode, place, -⟩ := isExecutable_eq_true_iff.mp executable
  rw [FileTree.place, steps_join plain, Path.segments_join inner.isSegment, List.append_assoc] at place
  obtain ⟨left, at_, reaches, -⟩ := reaches_of_approach inner place
  have absolute : Path.isAbsolute base =
      Path.isAbsolute (Path.join (Path.join base dir) name) := by
    rw [Path.isAbsolute_join plain.isSegment, Path.isAbsolute_join inner.isSegment]
  exact closed ⟨left, at_, reaches.congr absolute rfl⟩

end FileTree

open FileTree (Removable)
open Toolchain (Machine)

namespace Manager

/-- What an uninstall that succeeds makes of the files that it found. -/
structure Uninstalled (m : Manager) (before after : FileTree) : Prop where
  current : after.current = before.current
  gone : after.existing false m.config.baseDir = .error .notFound
  absent : before.existing false m.config.baseDir = .error .notFound → after = before
  outside : ∀ l e other, before.existing false m.config.baseDir = .ok (l, e) → ¬l <+: other →
    after.find? other = before.find? other
  below : ∀ l e other, before.existing false m.config.baseDir = .ok (l, e) → l <+: other →
    other ≠ l → after.find? other = none
  /-- Its own place is vacant, unless the storage root was inside of it. -/
  itself : ∀ l e, before.existing false m.config.baseDir = .ok (l, e) →
    after.Opens m.config.storageRoot → after.find? l = none
  version : m.installedVersion? after = none
  binary : after.isExecutable m.config.managedBinaryPath = false
  needed : m.needsInstall after = m.config.managed
  again : ∀ calls, m.uninstall.outcome ⟨after, calls⟩ = (.ok (), ⟨after, calls⟩)

structure UninstallEnds (m : Manager) (s : Machine) (outcome : Except InstallError Unit × Machine) :
    Prop where
  calls : outcome.2.calls = s.calls
  succeeds : outcome.1 = .ok () ↔ Removable (s.files.existing false m.config.baseDir)
  ok : outcome.1 = .ok () → m.Uninstalled s.files outcome.2.files
  error : ∀ e, outcome.1 = .error e → (∃ message, e = .io message) ∧ outcome.2 = s

section Uninstall

variable {m : Manager} {s : Machine}

theorem uninstall_of_missing (missing : s.files.existing false m.config.baseDir = .error .notFound) :
    m.uninstall.outcome s = (.ok (), s) := by
  rw [uninstall_outcome]
  simp only [FileTree.removeTree, missing]

theorem uninstall_of_fault {fault : FileFault}
    (stands : s.files.existing false m.config.baseDir = .error fault) (other : fault ≠ .notFound) :
    ∃ message, m.uninstall.outcome s = (.error (.io message), s) := by
  rw [uninstall_outcome]
  simp only [FileTree.removeTree, stands]
  cases fault <;> simp at other ⊢

theorem uninstall_of_file {l : Location} {content : ByteArray} {mode : Nat}
    (stands : s.files.existing false m.config.baseDir = .ok (l, .file content mode)) :
    ∃ message, m.uninstall.outcome s = (.error (.io message), s) := by
  rw [uninstall_outcome]
  simp only [FileTree.removeTree, stands]
  exact ⟨_, rfl⟩

theorem segments_baseDir (package : Path.IsPlain m.config.packageName) :
    Path.segments m.config.baseDir =
      Path.segments m.config.storageRoot ++ [m.config.packageName] :=
  Path.segments_join package.isSegment

theorem steps_baseDir (package : Path.IsPlain m.config.packageName) :
    FileTree.steps m.config.baseDir = Path.segments m.config.baseDir := by
  rw [segments_baseDir package]
  exact FileTree.steps_join package

theorem uninstall_of_removable (package : Path.IsPlain m.config.packageName) {l : Location} {e : Entry}
    (stands : s.files.existing false m.config.baseDir = .ok (l, e))
    (removable : Removable (.ok (l, e))) :
    ∃ left, m.uninstall.outcome s = (.ok (), { s with files := left }) ∧
      s.files.Removed m.config.baseDir (Path.segments m.config.storageRoot) l left := by
  obtain ⟨left, removes, removed⟩ := FileTree.removeTree_removable (segments_baseDir package) package
    (steps_baseDir package) stands removable
  refine ⟨left, ?_, removed⟩
  rw [uninstall_outcome, removes]

theorem uninstalled_of_gone (package : Path.IsPlain m.config.packageName)
    (server : Path.IsPlain m.config.serverName) {files : FileTree}
    (gone : files.existing false m.config.baseDir = .error .notFound) :
    m.installedVersion? files = none ∧ files.isExecutable m.config.managedBinaryPath = false ∧
      m.needsInstall files = m.config.managed := by
  have closed : ¬files.Opens m.config.baseDir :=
    FileTree.not_opens_of_missing (segments_baseDir package) package (steps_baseDir package) gone
  have binary : files.isExecutable m.config.managedBinaryPath = false :=
    FileTree.isExecutable_of_not_opens (by decide) server closed
  refine ⟨installedVersion?_of_not_opens closed, binary, ?_⟩
  rw [needsInstall, binary]
  simp

theorem uninstalled_of_removed (package : Path.IsPlain m.config.packageName)
    (server : Path.IsPlain m.config.serverName) {before after : FileTree} {l : Location} {e : Entry}
    (stood : before.existing false m.config.baseDir = .ok (l, e))
    (removed : before.Removed m.config.baseDir (Path.segments m.config.storageRoot) l after) :
    m.Uninstalled before after := by
  obtain ⟨version, binary, needed⟩ := uninstalled_of_gone package server removed.gone
  have place {l' : Location} {e' : Entry}
      (found : before.existing false m.config.baseDir = .ok (l', e')) : l = l' := by
    rw [stood] at found
    exact congrArg Prod.fst (Except.ok.inj found)
  refine ⟨removed.smaller.current.symm, removed.gone, fun absent => ?_,
    fun l' e' other found apart => ?_, fun l' e' other found below proper => ?_,
    fun l' e' found opens => ?_, version, binary, needed, fun calls => ?_⟩
  · rw [stood] at absent
    cases absent
  · exact removed.outside other (place found ▸ apart)
  · exact removed.below other (place found ▸ below) (place found ▸ proper)
  · obtain ⟨links, dir, reaches⟩ := opens
    have absolute : Path.isAbsolute m.config.baseDir = Path.isAbsolute m.config.storageRoot :=
      Path.isAbsolute_join package.isSegment
    exact place found ▸ removed.itself ⟨links, dir, reaches.congr absolute rfl⟩
  · exact uninstall_of_missing removed.gone

theorem uninstalled_of_missing (package : Path.IsPlain m.config.packageName)
    (server : Path.IsPlain m.config.serverName) {files : FileTree}
    (missing : files.existing false m.config.baseDir = .error .notFound) :
    m.Uninstalled files files := by
  obtain ⟨version, binary, needed⟩ := uninstalled_of_gone package server missing
  have nothing {l : Location} {e : Entry}
      (found : files.existing false m.config.baseDir = .ok (l, e)) : False := by
    rw [missing] at found
    cases found
  exact ⟨rfl, missing, fun _ => rfl, fun _ _ _ found => (nothing found).elim,
    fun _ _ _ found => (nothing found).elim, fun _ _ found => (nothing found).elim, version, binary,
    needed, fun _ => uninstall_of_missing missing⟩

theorem uninstallEnds_of_ok {left : FileTree}
    (removable : Removable (s.files.existing false m.config.baseDir))
    (uninstalled : m.Uninstalled s.files left) :
    m.UninstallEnds s (.ok (), { s with files := left }) :=
  ⟨rfl, iff_of_true rfl removable, fun _ => uninstalled, nofun⟩

theorem uninstallEnds_of_error {message : String}
    (unfit : ¬Removable (s.files.existing false m.config.baseDir)) :
    m.UninstallEnds s (.error (.io message), s) :=
  ⟨rfl, iff_of_false nofun unfit, nofun, fun _ same => ⟨⟨_, (Except.error.inj same).symm⟩, rfl⟩⟩

end Uninstall

/-- An uninstall succeeds just where the base directory is missing, a directory or a link. Then all that
stood there is gone and all else is as it was; where it fails nothing has changed. -/
theorem uninstall_exact (m : Manager) (package : Path.IsPlain m.config.packageName)
    (server : Path.IsPlain m.config.serverName) (s : Machine) :
    m.UninstallEnds s (m.uninstall.outcome s) := by
  rcases stands : s.files.existing false m.config.baseDir with fault | ⟨l, e⟩
  · by_cases missing : fault = .notFound
    · subst missing
      rw [uninstall_of_missing stands]
      exact uninstallEnds_of_ok (stands ▸ .missing) (uninstalled_of_missing package server stands)
    · obtain ⟨message, failed⟩ := uninstall_of_fault stands missing
      rw [failed]
      refine uninstallEnds_of_error fun fit => ?_
      rw [stands] at fit
      cases fit
      exact missing rfl
  · by_cases removable : Removable (.ok (l, e))
    · obtain ⟨left, ok, removed⟩ := uninstall_of_removable package stands removable
      rw [ok]
      exact uninstallEnds_of_ok (stands ▸ removable)
        (uninstalled_of_removed package server stands removed)
    · cases e with
      | directory => exact absurd .directory removable
      | link => exact absurd .link removable
      | file =>
        -- removing starts with listing, which a file refuses
        obtain ⟨message, failed⟩ := uninstall_of_file stands
        rw [failed]
        exact uninstallEnds_of_error (stands ▸ removable)

def linkedAway : FileTree :=
  rehearsedFiles
    [(["store"], .directory 0o755), (["store", "LSP-gopls"], .directory 0o755),
     (["store", "LSP-gopls", "VERSION"], .file "0.11.0".toUTF8 0o644),
     (["store", "LSP-gopls", "bin"], .link "../../kept"),
     (["kept"], .directory 0o755), (["kept", "gopls"], .file .empty 0o755)]

theorem uninstall_exact_linkedAway :
    (rehearsed [] 0).needsInstall linkedAway = false ∧
      ∃ s', (rehearsed [] 0).uninstall.outcome ⟨linkedAway, []⟩ = (.ok (), s') ∧
        (rehearsed [] 0).needsInstall s'.files = true ∧
        s'.files.find? ["work", "store", "LSP-gopls", "bin"] = none ∧
        s'.files.find? ["work", "kept", "gopls"] = some (.file .empty 0o755) := by
  have ends := uninstall_exact (rehearsed [] 0) (by decide) (by decide) ⟨linkedAway, []⟩
  have stands : linkedAway.existing false (rehearsed [] 0).config.baseDir =
      .ok (["work", "store", "LSP-gopls"], .directory 0o755) := by
    rfl
  rcases outcome : (rehearsed [] 0).uninstall.outcome ⟨linkedAway, []⟩ with ⟨result, s'⟩
  rw [outcome] at ends
  obtain rfl : result = .ok () := ends.succeeds.mpr (stands ▸ .directory)
  have uninstalled := ends.ok rfl
  refine ⟨by decide +kernel, s', rfl, uninstalled.needed, ?_, ?_⟩
  · exact uninstalled.below _ _ _ stands (by decide) (by decide)
  · exact uninstalled.outside _ _ _ stands (by decide)

end Manager

end ServerKeeper
